import NatTraversal.Proofs.Stun.Site

namespace NatTraversal

/-- How far a packet can still go: a request may be passed on to the partner of a server before it is answered. -/
def Body.hops : Body → Nat
  | .echoRequest .forwarded _ => 2
  | .echoRequest .. => 3
  | .reportRequest _ => 2
  | _ => 1

/-- A server answers with one message at most, under the same ticket, and the answer has less far to go. -/
theorem ResponderConfig.respond_cases (config : ResponderConfig) (me : Contact) (request : Message) (remote here : Socket) :
    config.respond me request remote here = [] ∨ ∃ answer, config.respond me request remote here = [answer] ∧
      answer.ticket = request.ticket ∧ answer.body.hops < request.body.hops := by
  unfold respond
  dsimp only
  split
  all_goals rename_i body
  all_goals try rw [body]
  · exact .inr ⟨_, rfl, rfl, show 1 < 3 by decide⟩
  · split
    · exact .inl rfl
    · exact .inr ⟨_, rfl, rfl, show 1 < 3 by decide⟩
  · split
    · exact .inr ⟨_, rfl, rfl, show 2 < 3 by decide⟩
    · exact .inl rfl
  · exact .inr ⟨_, rfl, rfl, show 1 < 2 by decide⟩
  · exact .inl rfl
  · exact .inr ⟨_, rfl, rfl, show 1 < 2 by decide⟩
  · exact .inl rfl

theorem EchoServer.answers_cases (server : EchoServer) (packet : Packet) : server.answers packet = [] ∨
    ∃ answer, server.answers packet = [answer] ∧ answer.message.ticket = packet.message.ticket ∧
      answer.message.body.hops < packet.message.body.hops := by
  unfold answers
  rcases server.config.respond_cases server.contact packet.message packet.source packet.dest with
    nothing | ⟨message, only, same, less⟩
  · rw [nothing]
    exact .inl rfl
  · rw [only]
    exact .inr ⟨_, rfl, same, less⟩

/-- What a survey goes on from, apart from what is under way: how many tickets have been drawn, and the endpoint up to its
counts of bytes. -/
structure SurveyPlace where
  endpoint : Endpoint
  translations : Translations := {}
  drawn : Nat := 0

namespace SurveySite

variable (site : SurveySite)

/-- The message that comes to the node of a packet, if one does. -/
def fate (t : Translations) (ports : PortTable Unit) (packet : Packet) : Option Message :=
  match site.server? packet.dest with
  | some server =>
    match _answered : server.answers packet with
    | [] => none
    | answer :: _ => fate t ports answer
  | none => if site.lets t ports packet.source packet.dest then some packet.message else none
termination_by packet.message.body.hops
decreasing_by
  rcases server.answers_cases packet with nothing | ⟨one, only, _, less⟩
  · rw [nothing] at _answered
    cases _answered
  · rw [only] at _answered
    cases _answered
    exact less

/-- A request of the survey. -/
def request (drawn : Nat) (port : UInt16) (server : Address) (body : Body) : Message :=
  let contact := site.me.contact site.roster
  let source := { contact with address := { contact.address with port } }
  { Message.plain source server body with ticket := site.chance.ticket drawn }

/-- Sends a request, which may come back with an answer. One that is refused does not leave the endpoint. -/
def ask (place : SurveyPlace) (message : Message) : Option Message × SurveyPlace :=
  match place.endpoint.accept site.outside message with
  | .ok () =>
    let (translations, packets) := site.launch place.translations (place.endpoint.send site.outside message).1
    (packets.head?.bind (site.fate translations place.endpoint.udp), { place with translations, drawn := place.drawn + 1 })
  | .error _ => (none, { place with drawn := place.drawn + 1 })

/-- What comes of a survey where every request is answered that can be. -/
def evaluate {α : Type} (place : SurveyPlace) : Survey α → α × SurveyPlace
  | .done result => (result, place)
  | .ask port server body next =>
    let (answer, place) := site.ask place (site.request place.drawn port server body)
    evaluate place (next answer)
  | .allocate count next =>
    let (ports, endpoint) := place.endpoint.alloc site.chance site.system (.v4 site.me.address.ip) count .udp
    evaluate { place with endpoint } (next (.ok ports))
  | .release ports next => evaluate { place with endpoint := (place.endpoint.release ports .udp).2 } (next (.ok ()))
  | .mapPort _ next => evaluate place (next site.gateway)

variable {site} {place : SurveyPlace}

theorem evaluate_bind {α β : Type} (survey : Survey α) (f : α → Survey β) (place : SurveyPlace) :
    site.evaluate place (survey >>= f) = site.evaluate (site.evaluate place survey).2 (f (site.evaluate place survey).1) := by
  show site.evaluate place (survey.bind f) = _
  induction survey generalizing place with
  | done a => rfl
  | ask port server body next ih => simp only [Survey.bind, evaluate, ih]
  | allocate count next ih => simp only [Survey.bind, evaluate, ih]
  | release ports next ih => simp only [Survey.bind, evaluate, ih]
  | mapPort socket next ih => simp only [Survey.bind, evaluate, ih]

@[simp] theorem evaluate_pure {α : Type} (a : α) (place : SurveyPlace) : site.evaluate place (pure a) = (a, place) := rfl

theorem ask_drawn (place : SurveyPlace) (message : Message) : (site.ask place message).2.drawn = place.drawn + 1 := by
  unfold ask
  split <;> rfl

/-- Tickets are only drawn, never given back. -/
theorem drawn_le_evaluate {α : Type} (survey : Survey α) (place : SurveyPlace) :
    place.drawn ≤ (site.evaluate place survey).2.drawn := by
  induction survey generalizing place with
  | done a => exact Nat.le_refl _
  | ask port server body next ih =>
    have later := ih (site.ask place (site.request place.drawn port server body)).1
      (site.ask place (site.request place.drawn port server body)).2
    rw [ask_drawn] at later
    exact Nat.le_trans (Nat.le_succ _) later
  | allocate count next ih =>
    let granted := place.endpoint.alloc site.chance site.system (.v4 site.me.address.ip) count .udp
    exact ih (.ok granted.1) { place with endpoint := granted.2 }
  | release ports next ih => exact ih (.ok ()) { place with endpoint := (place.endpoint.release ports .udp).2 }
  | mapPort socket next ih => exact ih _ place

end SurveySite

end NatTraversal
