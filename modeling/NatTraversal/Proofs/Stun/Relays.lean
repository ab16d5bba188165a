import Mathlib.Logic.Relation
import NatTraversal.Courier.Sorting
import NatTraversal.Proofs.Network.Basic

namespace NatTraversal

namespace Body

/-- Whether a client asks a server for this. What is forwarded comes from another server. -/
def isAsked : Body → Bool
  | .echoRequest kind _ => kind != .forwarded
  | .reportRequest _ => true
  | _ => false

/-- Whether a server answers a client with this. -/
def isAnswer : Body → Bool
  | .echoResponse .. | .reportResponse => true
  | _ => false

end Body

namespace Packet

/-- A message on its way from the socket that it names as its source. -/
def ofMessage (message : Message) : Packet := ⟨message.sourceSocket, message.destSocket, message⟩

/-- Where the sender of a packet is seen by whom it reaches. -/
def seen (packet : Packet) : Address := .ofSocket packet.source packet.message.source.node

theorem seen_socket {packet : Packet} {ip : Ipv4} (v4 : packet.source.ip = .v4 ip) : packet.seen.socket = packet.source := by
  unfold seen Address.ofSocket Address.socket Socket.v4
  rw [v4, Ip.toIpv4, ← v4]

end Packet

def CourierEffect.packet? : CourierEffect → Option Packet
  | .send message => some (.ofMessage message)
  | _ => none

/-- What a courier sends when a packet reaches it. -/
def Courier.posts (courier : Courier) (packet : Packet) : List Packet :=
  (courier.inbound packet.message packet.source packet.dest).filterMap CourierEffect.packet?

/-- What is under way of a request and of all that the servers have sent because of it. -/
structure RelayWorld where
  flight : List Packet
  sent : List Packet

/-- A packet reaches some courier that listens at the socket that it is for, or it is lost. -/
inductive RelayWorld.Step (listens : Courier → Socket → Prop) : RelayWorld → RelayWorld → Prop
  | deliver {before after sent : List Packet} {packet : Packet} {courier : Courier} (here : listens courier packet.dest) :
      Step listens ⟨before ++ packet :: after, sent⟩ ⟨before ++ after ++ courier.posts packet, sent ++ courier.posts packet⟩
  | lose {before after sent : List Packet} {packet : Packet} :
      Step listens ⟨before ++ packet :: after, sent⟩ ⟨before ++ after, sent⟩

/-- An answer goes to where the request was seen to come from, under its ticket; that of an echo tells this address. A changed
server answers by the partner of the one that was asked, from its own main port. -/
structure AnswersRequest (listens : Courier → Socket → Prop) (request answer : Packet) : Prop where
  dest : answer.message.dest = request.seen
  arrives : ∀ ip, request.source.ip = .v4 ip → answer.dest = request.source
  ticket : answer.message.ticket = request.message.ticket
  echo : ∀ kind replyTo, request.message.body = .echoRequest kind replyTo →
    ∃ altPort, answer.message.body = .echoResponse request.seen kind altPort
  changed : ∀ replyTo, request.message.body = .echoRequest .changeServer replyTo → ∃ first partner second,
    listens first request.dest ∧ first.responder.partner = some partner ∧ listens second partner.socket ∧
      answer.message.source = second.contact ∧ answer.source = second.contact.address.socket

/-- A request for a changed server as it is passed on. -/
structure RelaysRequest (listens : Courier → Socket → Prop) (request relay : Packet) : Prop where
  asked : ∃ replyTo, request.message.body = .echoRequest .changeServer replyTo
  forwarded : relay.message.body = .echoRequest .forwarded (some request.seen)
  ticket : relay.message.ticket = request.message.ticket
  partner : ∃ first partner, listens first request.dest ∧ first.responder.partner = some partner ∧ relay.dest = partner.socket

section

variable {listens : Courier → Socket → Prop} {courier : Courier} {request relay packet last answer : Packet} {sent : List Packet}

/-- A courier sends what its responder says, or nothing if it serves nobody. -/
theorem Courier.posts_cases (courier : Courier) (packet : Packet) : courier.posts packet = [] ∨ courier.posts packet =
    (courier.responder.respond courier.contact packet.message packet.source packet.dest).map .ofMessage := by
  have sending (messages : List Message) :
      (messages.map CourierEffect.send).filterMap CourierEffect.packet? = messages.map .ofMessage := by
    rw [List.filterMap_map]
    exact congrFun List.filterMap_eq_map messages
  unfold posts inbound
  split
  · split
    · split
      · exact .inr (sending _)
      · exact .inl rfl
    · split
      · exact .inr (sending _)
      · exact .inl rfl
    · exact .inl rfl
  · split
    · split
      · split
        · exact .inl rfl
        · exact .inl rfl
      · exact .inl rfl
    · exact .inl rfl

theorem arrives_of_dest {message : Message} (dest : message.dest = request.seen) (ip : Ipv4) (v4 : request.source.ip = .v4 ip) :
    (Packet.ofMessage message).dest = request.source := by
  rw [← Packet.seen_socket v4, ← dest]
  rfl

theorem answersRequest_of_echo {message : Message} {kind : EchoKind} {replyTo : Option Address} {altPort : UInt16}
    (asked : request.message.body = .echoRequest kind replyTo) (dest : message.dest = request.seen)
    (ticket : message.ticket = request.message.ticket) (tells : message.body = .echoResponse request.seen kind altPort)
    (changed : kind = .changeServer → ∃ first partner second, listens first request.dest ∧ first.responder.partner = some partner ∧
      listens second partner.socket ∧ message.source = second.contact) :
    AnswersRequest listens request (.ofMessage message) where
  dest := dest
  arrives := arrives_of_dest dest
  ticket := ticket
  echo kind replyTo same := by
    cases asked.symm.trans same
    exact ⟨altPort, tells⟩
  changed replyTo same := by
    cases asked.symm.trans same
    obtain ⟨first, partner, second, heard, forwards, there, source⟩ := changed rfl
    refine ⟨first, partner, second, heard, forwards, there, source, ?_⟩
    rw [← source]
    rfl

/-- The server that a client asks answers it, or passes its request on. -/
theorem posts_asked (asked : request.message.body.isAsked = true) (here : listens courier request.dest) :
    courier.posts request = [] ∨ ∃ next, courier.posts request = [next] ∧
      (next.message.body.isAnswer = true ∧ AnswersRequest listens request next ∨ RelaysRequest listens request next) := by
  rcases courier.posts_cases request with nothing | posts
  · exact .inl nothing
  · rw [posts]
    unfold ResponderConfig.respond
    dsimp only
    split
    all_goals rename_i body
    · exact .inr ⟨_, rfl, .inl ⟨rfl, answersRequest_of_echo body rfl rfl rfl nofun⟩⟩
    · split
      · exact .inl rfl
      · exact .inr ⟨_, rfl, .inl ⟨rfl, answersRequest_of_echo body rfl rfl rfl nofun⟩⟩
    · split
      · rename_i partner named
        exact .inr ⟨_, rfl, .inr ⟨⟨_, body⟩, rfl, rfl, courier, partner, here, named, rfl⟩⟩
      · exact .inl rfl
    · rw [body] at asked
      cases asked
    · exact .inl rfl
    · refine .inr ⟨_, rfl, .inl ⟨rfl, rfl, arrives_of_dest rfl, rfl, fun _ _ same => ?_, fun _ same => ?_⟩⟩
      · cases body.symm.trans same
      · cases body.symm.trans same
    · exact .inl rfl

/-- The partner answers for the server that has passed the request on. -/
theorem posts_relayed (relays : RelaysRequest listens request relay) (here : listens courier relay.dest) :
    courier.posts relay = [] ∨ ∃ next, courier.posts relay = [next] ∧ next.message.body.isAnswer = true ∧
      AnswersRequest listens request next := by
  rcases courier.posts_cases relay with nothing | posts
  · exact .inl nothing
  · obtain ⟨first, partner, heard, named, dest⟩ := relays.partner
    obtain ⟨replyTo, asked⟩ := relays.asked
    rw [ResponderConfig.respond, relays.forwarded] at posts
    rw [dest] at here
    exact .inr ⟨_, posts, rfl, answersRequest_of_echo asked rfl relays.ticket rfl fun _ =>
      ⟨first, partner, courier, heard, named, here, rfl⟩⟩

/-- Nobody answers an answer. -/
theorem posts_answered (answers : answer.message.body.isAnswer = true) : courier.posts answer = [] := by
  rcases courier.posts_cases answer with nothing | posts
  · exact nothing
  · rw [posts]
    unfold Body.isAnswer at answers
    unfold ResponderConfig.respond
    split at answers
    · rename_i body
      rw [body]
      rfl
    · rename_i body
      rw [body]
      rfl
    · cases answers

/-- What has been sent because of a request, up to the last packet. -/
inductive RelayCourse (listens : Courier → Socket → Prop) (request : Packet) : List Packet → Packet → Prop
  | asked (asked : request.message.body.isAsked = true) : RelayCourse listens request [] request
  | relayed {relay : Packet} (relays : RelaysRequest listens request relay) : RelayCourse listens request [relay] relay
  | answered {answer : Packet} (answers : answer.message.body.isAnswer = true) (own : AnswersRequest listens request answer) :
      RelayCourse listens request [answer] answer
  | both {relay answer : Packet} (relays : RelaysRequest listens request relay) (answers : answer.message.body.isAnswer = true)
      (own : AnswersRequest listens request answer) : RelayCourse listens request [relay, answer] answer

namespace RelayCourse

theorem deliver (course : RelayCourse listens request sent last) (here : listens courier last.dest) :
    courier.posts last = [] ∨ ∃ next, courier.posts last = [next] ∧ RelayCourse listens request (sent ++ [next]) next := by
  cases course with
  | asked asked =>
    refine (posts_asked asked here).imp_right ?_
    rintro ⟨next, only, ⟨answers, own⟩ | relays⟩
    · exact ⟨next, only, .answered answers own⟩
    · exact ⟨next, only, .relayed relays⟩
  | relayed relays =>
    refine (posts_relayed relays here).imp_right ?_
    rintro ⟨next, only, answers, own⟩
    exact ⟨next, only, .both relays answers own⟩
  | answered answers | both _ answers => exact .inl (posts_answered answers)

theorem not_isAnswer (relays : RelaysRequest listens request relay) : relay.message.body.isAnswer = false := by
  rw [relays.forwarded]
  rfl

/-- What the course of a request comes to. -/
theorem few (course : RelayCourse listens request sent last) :
    sent.length ≤ 2 ∧ (sent.filter (·.message.body.isAnswer)).length ≤ 1 ∧
      ∀ answer ∈ sent, answer.message.body.isAnswer = true → AnswersRequest listens request answer := by
  cases course with
  | asked => simp
  | relayed relays => simp [not_isAnswer relays]
  | answered answers own => simp [answers, own]
  | both relays answers own => simp [not_isAnswer relays, answers, own]

end RelayCourse

/-- Nothing but the last packet is under way. -/
theorem flies_alone {before after : List Packet}
    (flight : before ++ packet :: after = [] ∨ before ++ packet :: after = [last]) : before = [] ∧ packet = last ∧ after = [] := by
  rcases flight with nothing | alone
  · exact absurd nothing (List.append_ne_nil_of_right_ne_nil _ (List.cons_ne_nil _ _))
  · cases before with
    | nil =>
      obtain ⟨same, rest⟩ := List.cons.inj alone
      exact ⟨rfl, same, rest⟩
    | cons first before =>
      exact absurd (List.cons.inj alone).2 (List.append_ne_nil_of_right_ne_nil _ (List.cons_ne_nil _ _))

/-- However servers have each other for partners, even each other or themselves, and whichever packets are lost, a request of a
client leads to two messages of theirs at most, of which one at most is an answer, and this is what the client has asked for. -/
theorem RelayWorld.answers_once {w : RelayWorld} (asked : request.message.body.isAsked = true)
    (reach : Relation.ReflTransGen (RelayWorld.Step listens) ⟨[request], []⟩ w) :
    w.sent.length ≤ 2 ∧ (w.sent.filter (·.message.body.isAnswer)).length ≤ 1 ∧
      ∀ answer ∈ w.sent, answer.message.body.isAnswer = true → AnswersRequest listens request answer := by
  have course : ∃ last, RelayCourse listens request w.sent last ∧ (w.flight = [] ∨ w.flight = [last]) := by
    induction reach with
    | refl => exact ⟨request, .asked asked, .inr rfl⟩
    | tail _ step ih =>
      obtain ⟨last, course, flight⟩ := ih
      cases step with
      | @deliver before after sent packet courier here =>
        obtain ⟨rfl, rfl, rfl⟩ := flies_alone flight
        rcases course.deliver here with nothing | ⟨next, only, later⟩
        · rw [nothing, List.append_nil sent]
          exact ⟨packet, course, .inl rfl⟩
        · rw [only]
          exact ⟨next, later, .inr rfl⟩
      | lose =>
        obtain ⟨rfl, rfl, rfl⟩ := flies_alone flight
        exact ⟨_, course, .inl rfl⟩
  obtain ⟨last, course, _⟩ := course
  exact course.few

end

/-- Two servers that are partners of each other: the one that is not asked answers. -/
theorem RelayWorld.answers_once_mutual :
    let here : Address := ⟨.ofOctets 80 0 0 1, 3478, 1⟩
    let there : Address := ⟨.ofOctets 80 0 0 2, 3478, 2⟩
    let first : Courier := { me := ⟨here, 0, none⟩, config := {}, responder := ⟨0, some there⟩, roster := .empty 3, serving := true }
    let second : Courier := { me := ⟨there, 0, none⟩, config := {}, responder := ⟨0, some here⟩, roster := .empty 3, serving := true }
    let listens (courier : Courier) (socket : Socket) : Prop :=
      courier = first ∧ socket = here.socket ∨ courier = second ∧ socket = there.socket
    let client : Contact := ⟨⟨.ofOctets 192 168 0 2, 4000, 9⟩, 0, .unrestricted, []⟩
    let request : Packet := ⟨.v4 (.ofOctets 90 0 0 9) 7000, here.socket, Message.plain client here (.echoRequest .changeServer none)⟩
    let relays := first.posts request
    let answers := relays.flatMap second.posts
    relays.length = 1 ∧ answers.map (fun answer => (answer.source, answer.dest)) = [(there.socket, request.source)] ∧
      Relation.ReflTransGen (RelayWorld.Step listens) ⟨[request], []⟩ ⟨answers, relays ++ answers⟩ ∧
      ∀ answer ∈ relays ++ answers, answer.message.body.isAnswer = true → AnswersRequest listens request answer := by
  intro here there first second listens client request relays answers
  have reach : Relation.ReflTransGen (RelayWorld.Step listens) ⟨[request], []⟩ ⟨answers, relays ++ answers⟩ := by
    obtain ⟨relay, only, dest⟩ : ∃ relay, relays = [relay] ∧ relay.dest = there.socket := ⟨_, rfl, rfl⟩
    have answered : answers = second.posts relay := by
      show relays.flatMap second.posts = _
      rw [only, List.flatMap_singleton]
    have asks : RelayWorld.Step listens ⟨[request], []⟩ ⟨relays, relays⟩ :=
      @RelayWorld.Step.deliver listens [] [] [] request first (.inl ⟨rfl, rfl⟩)
    have forwards : RelayWorld.Step listens ⟨[relay], [relay]⟩ ⟨second.posts relay, [relay] ++ second.posts relay⟩ :=
      @RelayWorld.Step.deliver listens [] [] [relay] relay second (.inr ⟨rfl, dest⟩)
    rw [answered, only]
    exact .tail (.single (only ▸ asks)) forwards
  exact ⟨by decide +kernel, by decide +kernel, reach, (RelayWorld.answers_once rfl reach).2.2⟩

end NatTraversal
