import NatTraversal.Proofs.Chance
import NatTraversal.Proofs.Endpoint.Metering
import NatTraversal.Proofs.Punch.Lifetime
import NatTraversal.Proofs.Stun.Evaluation

namespace NatTraversal

/-- At least one transmission, and no timeout that is too long to measure, even the one that would follow the last. -/
structure Backoff.MeasuredPast (backoff : Backoff) : Prop where
  some_attempt : 1 ≤ backoff.attempts.toNat
  each : ∀ count, count ≤ backoff.attempts.toNat → (backoff.timeout? count).isSome = true

theorem Backoff.MeasuredPast.next {backoff : Backoff} {rto left : Nat} (measured : backoff.MeasuredPast)
    (schedules : backoff.Schedules rto left) : ∃ later, backoff.next? rto = some later := by
  obtain ⟨count, timeout, total⟩ := schedules
  have some_attempt := measured.some_attempt
  have later := measured.each (count + 1) (by omega)
  rw [timeout?, timeout, Option.bind_some] at later
  exact Option.isSome_iff_exists.mp later

namespace SurveySite

section

variable {site : SurveySite} {t later : Translations} {ports : PortTable Unit} {packet : Packet} {place : SurveyPlace}
  {message request : Message} {answer : Option Message} {flight : List Packet} {goal : SurveyWorld → Prop}

theorem fate_at_server {server : EchoServer} (heard : site.server? packet.dest = some server) :
    site.fate t ports packet = (server.answers packet).head?.bind (site.fate t ports) := by
  rw [fate, heard]
  dsimp only
  split
  · rename_i nothing
    rw [nothing]
    rfl
  · rename_i answered
    rw [answered]
    rfl

theorem fate_at_node (unheard : site.server? packet.dest = none) (inside : site.lets t ports packet.source packet.dest = true) :
    site.fate t ports packet = some packet.message := by
  rw [fate, unheard]
  exact if_pos inside

theorem fate_nowhere (unheard : site.server? packet.dest = none) (outside : site.lets t ports packet.source packet.dest = false) :
    site.fate t ports packet = none := by
  rw [fate, unheard]
  exact if_neg (by simp [outside])

/-- Whether sending a request takes the translator from one state to another, and its packets come to this answer. -/
def Sends (site : SurveySite) (e : Endpoint) (request : Message) (answer : Option Message) (t later : Translations) : Prop :=
  ∃ effects packets, (∀ traffic, ∃ more, (e.metered traffic).send site.outside request = (effects, e.metered more)) ∧
    site.launch t effects = (later, packets) ∧
    (∀ packet ∈ packets, packet.message.ticket = request.ticket ∧ site.fate later e.udp packet = answer) ∧
    (answer.isSome = true → packets ≠ [])

/-- A request that is not refused may be sent again: the translator has seen it. -/
theorem ask_cases (place : SurveyPlace) (datagram : message.transport = .udp) :
    (∃ error, place.endpoint.accept site.outside message = .error error ∧
        (∀ traffic, (place.endpoint.metered traffic).send site.outside message = ([], place.endpoint.metered traffic)) ∧
        site.ask place message = (none, { place with drawn := place.drawn + 1 })) ∨
      place.endpoint.accept site.outside message = .ok () ∧ ∃ answer later,
        site.ask place message = (answer, ⟨place.endpoint, later, place.drawn + 1⟩) ∧
        site.Sends place.endpoint message answer place.translations later ∧
        site.Sends place.endpoint message answer later later := by
  have carries : ∀ frame dest, site.outside.carry frame dest = .ok () := fun _ _ => rfl
  unfold ask
  rcases place.endpoint.send_cases carries datagram with ⟨error, refused, stays⟩ | ⟨accepted, effects, sent, kind⟩
  · rw [refused]
    exact .inl ⟨error, rfl, stays, rfl⟩
  · rw [accepted]
    refine .inr ⟨rfl, ?_⟩
    have effect : (place.endpoint.send site.outside message).1 = effects := by
      obtain ⟨more, out⟩ := sent place.endpoint.traffic
      exact congrArg Prod.fst out
    rw [effect]
    rcases kind with ⟨event, rfl⟩ | ⟨frame, decoded, rfl⟩
    · exact ⟨none, _, rfl, ⟨_, [], sent, rfl, by simp, by simp⟩, ⟨_, [], sent, rfl, by simp, by simp⟩⟩
    · let flow : Flow := ⟨message.sourceSocket, message.destSocket⟩
      let packet : Packet := ⟨site.translator.outer place.translations flow, message.destSocket, message⟩
      let sentOnce := site.translator.send place.translations flow
      have first : site.launch place.translations [.transmit message.sourceSocket message.destSocket frame] = (sentOnce, [packet]) := by
        simp only [launch, decoded]
        rfl
      have again : site.launch sentOnce [.transmit message.sourceSocket message.destSocket frame] = (sentOnce, [packet]) := by
        simp only [launch, decoded]
        rw [(site.translator.knows_send ..).send_eq, Translator.outer_send]
      rw [first]
      refine ⟨_, _, rfl, ⟨_, _, sent, first, ?_, by simp⟩, ⟨_, _, sent, again, ?_, by simp⟩⟩
      all_goals simp [packet]

/-- What is under way while an answer is waited for: old packets, and those of the request, which all come to the same. -/
structure UnderWay (site : SurveySite) (place : SurveyPlace) (ticket : Ticket) (answer : Option Message) (flight : List Packet) :
    Prop where
  drawn : ∀ packet ∈ flight, site.chance.Draws 0 place.drawn packet.message.ticket
  fates : ∀ packet ∈ flight, packet.message.ticket = ticket → site.fate place.translations place.endpoint.udp packet = answer
  some_left : answer.isSome = true → ∃ packet ∈ flight, packet.message.ticket = ticket

/-- A survey after so many draws. -/
def surveyor (site : SurveySite) (state : SurveyState) (drawn : Nat) : Surveyor :=
  ⟨site.me, site.config.backoff, site.gateway, state, drawn⟩

/-- A world in which an answer is waited for. -/
def waiting (site : SurveySite) (place : SurveyPlace) (next : Option Message → Survey (Except Error NatType))
    (transaction : Transaction) (time : Nat) (traffic : Traffic) (flight : List Packet) : SurveyWorld :=
  ⟨time, site.surveyor (.waiting transaction next) place.drawn, place.endpoint.metered traffic, place.translations, flight⟩

/-- A world in which the survey has just been able to go on. -/
def going (site : SurveySite) (place : SurveyPlace) (survey : Survey (Except Error NatType)) (state : SurveyState)
    (time : Nat) (traffic : Traffic) (flight : List Packet) : SurveyWorld :=
  site.take time place.translations flight
    ((site.surveyor state place.drawn).proceed (site.surroundings time) site.outside (place.endpoint.metered traffic) survey)

/-- How far all that is under way can still go. -/
def hops : List Packet → Nat
  | [] => 0
  | packet :: flight => packet.message.body.hops + hops flight

theorem hops_append (flight more : List Packet) : hops (flight ++ more) = hops flight + hops more := by
  induction flight with
  | nil => exact (Nat.zero_add _).symm
  | cons packet flight ih => rw [List.cons_append, hops, hops, ih, Nat.add_assoc]

namespace UnderWay

variable {ticket : Ticket} {before after : List Packet}

/-- A packet that brings nothing is not missed. -/
theorem without (underWay : site.UnderWay place ticket answer (before ++ packet :: after))
    (lost : site.fate place.translations place.endpoint.udp packet = none ∨ packet.message.ticket ≠ ticket) :
    site.UnderWay place ticket answer (before ++ after) := by
  have others := ((List.sublist_cons_self packet after).append_left before).subset
  refine ⟨fun p member => underWay.drawn p (others member), fun p member => underWay.fates p (others member), ?_⟩
  intro awaited
  obtain ⟨p, member, own⟩ := underWay.some_left awaited
  have apart : p ≠ packet := by
    rintro rfl
    rcases lost with nothing | stale
    · rw [← underWay.fates p member own, nothing] at awaited
      cases awaited
    · exact stale own
  refine ⟨p, ?_, own⟩
  simpa [apart] using member

/-- A packet may be replaced by the one that it leads to. -/
theorem answered {reply : Packet} (underWay : site.UnderWay place ticket answer (before ++ packet :: after))
    (same : reply.message.ticket = packet.message.ticket)
    (fate : site.fate place.translations place.endpoint.udp reply = site.fate place.translations place.endpoint.udp packet) :
    site.UnderWay place ticket answer (before ++ after ++ [reply]) := by
  have here : packet ∈ before ++ packet :: after := by simp
  have others := ((List.sublist_cons_self packet after).append_left before).subset
  refine ⟨fun p member => ?_, fun p member own => ?_, fun awaited => ?_⟩
  · rcases List.mem_append.mp member with old | new
    · exact underWay.drawn p (others old)
    · rw [List.mem_singleton.mp new, same]
      exact underWay.drawn packet here
  · rcases List.mem_append.mp member with old | new
    · exact underWay.fates p (others old) own
    · obtain rfl := List.mem_singleton.mp new
      exact fate.trans (underWay.fates packet here (same ▸ own))
  · obtain ⟨p, member, own⟩ := underWay.some_left awaited
    by_cases this : p = packet
    · exact ⟨reply, by simp, by rw [same, ← this, own]⟩
    · refine ⟨p, ?_, own⟩
      simp only [List.mem_append, List.mem_cons, this, false_or] at member
      exact List.mem_append_left _ (List.mem_append.mpr member)

/-- Each packet that arrives has less far to go, until one brings the answer. -/
theorem arrive {transaction : Transaction} {next : Option Message → Survey (Except Error NatType)} {time : Nat} {traffic : Traffic}
    (underWay : site.UnderWay place transaction.request.ticket answer (before ++ packet :: after)) :
    (∃ flight, site.arrive (site.waiting place next transaction time traffic (before ++ after)) packet =
        site.waiting place next transaction time traffic flight ∧
      site.UnderWay place transaction.request.ticket answer flight ∧ hops flight < hops (before ++ packet :: after)) ∨
    ∃ state, site.arrive (site.waiting place next transaction time traffic (before ++ after)) packet =
      site.going place (next answer) state time traffic (before ++ after) := by
  have less : hops (before ++ packet :: after) = hops (before ++ after) + packet.message.body.hops := by
    rw [hops_append, hops_append, hops]
    omega
  have positive : 0 < packet.message.body.hops := by
    unfold Body.hops
    split <;> decide
  cases heard : site.server? packet.dest with
  | some server =>
    have fate : site.fate place.translations place.endpoint.udp packet =
      (server.answers packet).head?.bind (site.fate place.translations place.endpoint.udp) := fate_at_server heard
    rw [arrive_at_server heard]
    rcases server.answers_cases packet with nothing | ⟨reply, only, same, closer⟩
    · rw [nothing] at fate ⊢
      rw [List.append_nil]
      exact .inl ⟨_, rfl, underWay.without (.inl fate), by dsimp only [waiting]; omega⟩
    · rw [only] at fate ⊢
      refine .inl ⟨_, rfl, underWay.answered same fate.symm, ?_⟩
      rw [hops_append, hops, hops, Nat.add_zero, less]
      exact Nat.add_lt_add_left closer _
  | none =>
    cases inside : site.lets place.translations place.endpoint.udp packet.source packet.dest with
    | true =>
      rw [arrive_at_node heard inside]
      by_cases own : packet.message.ticket = transaction.request.ticket
      · have brought : answer = some packet.message :=
          (underWay.fates packet (by simp) own).symm.trans (fate_at_node heard inside)
        refine .inr ⟨.waiting transaction next, ?_⟩
        simp only [waiting, surveyor, Surveyor.onReply, if_pos own, brought, going]
      · refine .inl ⟨_, ?_, underWay.without (.inr own), by omega⟩
        simp only [waiting, surveyor, Surveyor.onReply, if_neg own, take, launch, List.append_nil]
    | false =>
      rw [arrive_nowhere heard inside]
      exact .inl ⟨_, rfl, underWay.without (.inl (fate_nowhere heard inside)), by omega⟩

/-- More packets of the request are under way once it is sent again. -/
theorem resent {packets : List Packet} (underWay : site.UnderWay place ticket answer flight)
    (drawn : site.chance.Draws 0 place.drawn ticket) (own : ∀ packet ∈ packets, packet.message.ticket = ticket ∧
      site.fate place.translations place.endpoint.udp packet = answer) :
    site.UnderWay place ticket answer (flight ++ packets) := by
  refine ⟨fun p member => ?_, fun p member same => ?_, fun awaited => ?_⟩
  · rcases List.mem_append.mp member with old | new
    · exact underWay.drawn p old
    · exact (own p new).1 ▸ drawn
  · rcases List.mem_append.mp member with old | new
    · exact underWay.fates p old same
    · exact (own p new).2
  · obtain ⟨p, member, same⟩ := underWay.some_left awaited
    exact ⟨p, List.mem_append_left _ member, same⟩

end UnderWay

section

variable {next : Option Message → Survey (Except Error NatType)}

/-- A request is waited for until its answer comes, or until nothing can come any more and the last timeout is over. -/
theorem inevitable_waiting (place : SurveyPlace) (measured : site.config.backoff.MeasuredPast)
    (accepted : place.endpoint.accept site.outside request = .ok ())
    (again : site.Sends place.endpoint request answer place.translations place.translations)
    (drawn : site.chance.Draws 0 place.drawn request.ticket)
    (goes_on : ∀ state time traffic flight, (∀ packet ∈ flight, site.chance.Draws 0 place.drawn packet.message.ticket) →
      Inevitable site.Step goal (site.going place (next answer) state time traffic flight))
    (transaction : Transaction) (same : transaction.request = request)
    (schedules : site.config.backoff.Schedules transaction.rto transaction.retriesLeft) (time : Nat) (traffic : Traffic)
    (underWay : site.UnderWay place request.ticket answer flight) :
    Inevitable site.Step goal (site.waiting place next transaction time traffic flight) := by
  -- Every timeout leaves fewer retries; until the next one the packets have less and less far to go.
  induction left : transaction.retriesLeft using Nat.strongRecOn generalizing transaction time traffic flight with
  | ind retries fewer =>
  induction far : hops flight using Nat.strongRecOn generalizing time flight with
  | ind distance closer =>
  subst same
  refine .later ?_ ?_
  · cases flight with
    | nil =>
      refine ⟨_, .timeout (Nat.le_max_left ..) rfl (Nat.le_max_right ..) ?_⟩
      exact fun _ _ _ _ packet member => absurd member List.not_mem_nil
    | cons packet rest => exact ⟨_, .deliver (Nat.le_refl _) (List.nil_append (packet :: rest)).symm⟩
  · intro w step
    cases step with
    | @deliver before after packet late _ flies =>
      obtain rfl : flight = before ++ packet :: after := flies
      show Inevitable site.Step goal
        (site.arrive (site.waiting place next transaction late traffic (before ++ after)) packet)
      rcases underWay.arrive with ⟨flight, arrived, still, less⟩ | ⟨state, arrived⟩
      · rw [arrived]
        exact closer _ (far ▸ less) late still rfl
      · rw [arrived]
        have others := ((List.sublist_cons_self packet after).append_left before).subset
        exact goes_on state late traffic _ fun p member => underWay.drawn p (others member)
    | @timeout late _ _ _ _ patient =>
      obtain ⟨rto, next_rto⟩ := measured.next schedules
      simp only [waiting, surveyor, Surveyor.onTimeout, next_rto]
      by_cases last : transaction.retriesLeft = 0
      · rw [if_pos last]
        have nothing : answer = none := by
          rw [← Option.not_isSome_iff_eq_none]
          intro awaited
          obtain ⟨packet, member, own⟩ := underWay.some_left awaited
          exact patient transaction next rfl last packet member own
        have given_up := goes_on (.waiting transaction next) late traffic flight underWay.drawn
        rw [nothing] at given_up
        exact given_up
      · rw [if_neg last]
        obtain ⟨effects, packets, sent, launched, own, _⟩ := again
        obtain ⟨more, sent⟩ := sent traffic
        rw [sent, Endpoint.accept_metered, accepted]
        simp only [Surveyor.withSent, take, launched]
        exact fewer (transaction.retriesLeft - 1) (by omega) ⟨transaction.request, _, rto, late + rto⟩ rfl
          (schedules.next last next_rto) late more (underWay.resent drawn own) rfl

variable {state : SurveyState} {time : Nat} {traffic : Traffic} {port : UInt16} {server : Address} {body : Body}

theorem going_ask_refused {error : LinkError} (attempts : site.config.backoff.attempts ≠ 0)
    (refused : place.endpoint.accept site.outside (site.request place.drawn port server body) = .error error)
    (stays : ∀ traffic, (place.endpoint.metered traffic).send site.outside (site.request place.drawn port server body) =
      ([], place.endpoint.metered traffic)) :
    site.going place (.ask port server body next) state time traffic flight =
      site.going { place with drawn := place.drawn + 1 } (next none) state time traffic flight := by
  have refused' : (place.endpoint.metered traffic).accept site.outside (site.request place.drawn port server body) = .error error :=
    refused
  simp only [request] at refused' stays
  simp only [going, surveyor, Surveyor.proceed, if_neg attempts, surroundings, refused', stays, List.nil_append]

theorem going_ask_accepted {t : Translations} (next : Option Message → Survey (Except Error NatType)) (state : SurveyState)
    (time : Nat) (traffic : Traffic) (flight : List Packet) (attempts : site.config.backoff.attempts ≠ 0)
    (accepted : place.endpoint.accept site.outside (site.request place.drawn port server body) = .ok ())
    (sends : site.Sends place.endpoint (site.request place.drawn port server body) answer place.translations t) :
    ∃ packets more deadline, site.going place (.ask port server body next) state time traffic flight =
        site.waiting ⟨place.endpoint, t, place.drawn + 1⟩ next ⟨site.request place.drawn port server body,
          site.config.backoff.attempts.toNat - 1, site.config.backoff.first, deadline⟩ time more (flight ++ packets) ∧
      (∀ packet ∈ packets, packet.message.ticket = site.chance.ticket place.drawn ∧
        site.fate t place.endpoint.udp packet = answer) ∧
      (answer.isSome = true → packets ≠ []) := by
  obtain ⟨effects, packets, sent, launched, own, some_sent⟩ := sends
  obtain ⟨more, sent⟩ := sent traffic
  have accepted' : (place.endpoint.metered traffic).accept site.outside (site.request place.drawn port server body) = .ok () :=
    accepted
  refine ⟨packets, more, time + site.config.backoff.first, ?_, own, some_sent⟩
  simp only [request] at accepted' sent
  simp only [going, surveyor, Surveyor.proceed, if_neg attempts, surroundings, accepted', sent, Surveyor.withSent, take,
    launched, waiting, request]

theorem going_allocate {count : Nat} {next : Except LinkError (List UInt16) → Survey (Except Error NatType)} :
    site.going place (.allocate count next) state time traffic flight =
      site.going
        { place with endpoint := (place.endpoint.alloc site.chance site.system (.v4 site.me.address.ip) count .udp).2 }
        (next (.ok (place.endpoint.alloc site.chance site.system (.v4 site.me.address.ip) count .udp).1))
        state time traffic flight := by
  simp only [going, surveyor, Surveyor.proceed, surroundings, outside, Endpoint.alloc_metered]

theorem going_release {ports : List UInt16} {next : Except LinkError Unit → Survey (Except Error NatType)} :
    site.going place (.release ports next) state time traffic flight =
      site.going { place with endpoint := (place.endpoint.release ports .udp).2 } (next (.ok ())) state time traffic flight := by
  simp only [going, surveyor, Surveyor.proceed, Endpoint.release_metered]

/-- Wherever a survey stands, it ends with what comes of it when every request is answered that can be. -/
theorem inevitable_going (measured : site.config.backoff.MeasuredPast) (survey : Survey (Except Error NatType))
    (distinct : site.chance.Distinct (site.evaluate place survey).2.drawn)
    (old : ∀ packet ∈ flight, site.chance.Draws 0 place.drawn packet.message.ticket) :
    Inevitable site.Step (fun w => w.surveyor.result? = some (site.evaluate place survey).1)
      (site.going place survey state time traffic flight) := by
  have attempts : site.config.backoff.attempts ≠ 0 := by
    have some_attempt := measured.some_attempt
    intro none
    rw [none] at some_attempt
    cases some_attempt
  induction survey generalizing place state time traffic flight with
  | done result => exact .now rfl
  | ask port server body next ih =>
    let request := site.request place.drawn port server body
    have older {drawn : Nat} (more : place.drawn ≤ drawn) :
        ∀ packet ∈ flight, site.chance.Draws 0 drawn packet.message.ticket :=
      fun packet member => (old packet member).mono (Nat.le_refl _) more
    rcases site.ask_cases place (show request.transport = .udp from rfl) with
      ⟨error, refused, stays, asked⟩ | ⟨accepted, answer, later, asked, sends, again⟩
    · have evaluated : site.evaluate place (.ask port server body next) =
          site.evaluate { place with drawn := place.drawn + 1 } (next none) := by
        rw [evaluate, asked]
      rw [evaluated] at distinct ⊢
      rw [going_ask_refused attempts refused stays]
      exact ih none distinct (older (Nat.le_succ _))
    · have evaluated : site.evaluate place (.ask port server body next) =
          site.evaluate ⟨place.endpoint, later, place.drawn + 1⟩ (next answer) := by
        rw [evaluate, asked]
      rw [evaluated] at distinct ⊢
      obtain ⟨packets, more, deadline, waits, own, some_sent⟩ := going_ask_accepted next state time traffic flight
        attempts accepted sends
      have drawn : site.chance.Draws 0 (place.drawn + 1) request.ticket := ⟨place.drawn, Nat.zero_le _, Nat.lt_succ_self _, rfl⟩
      rw [waits]
      refine inevitable_waiting ⟨place.endpoint, later, place.drawn + 1⟩ measured accepted again drawn
        (fun state time traffic flight old => ih answer distinct old) _ rfl (Backoff.schedules_first _) time more ⟨?_, ?_, ?_⟩
      · intro packet member
        rcases List.mem_append.mp member with before | new
        · exact older (Nat.le_succ _) packet before
        · exact (own packet new).1 ▸ drawn
      · intro packet member same
        rcases List.mem_append.mp member with before | new
        · -- A ticket that was drawn before is another one.
          obtain ⟨n, _, earlier, ticket⟩ := old packet before
          have bound : place.drawn + 1 ≤ (site.evaluate ⟨place.endpoint, later, place.drawn + 1⟩ (next answer)).2.drawn :=
            drawn_le_evaluate (next answer) ⟨place.endpoint, later, place.drawn + 1⟩
          have := distinct n place.drawn (Nat.lt_of_lt_of_le (Nat.lt_succ_of_lt earlier) bound) bound (ticket.symm.trans same)
          omega
        · exact (own packet new).2
      · intro awaited
        obtain ⟨packet, member⟩ := List.exists_mem_of_ne_nil _ (some_sent awaited)
        exact ⟨packet, List.mem_append_right _ member, (own packet member).1⟩
  | allocate count next ih =>
    rw [going_allocate]
    exact ih _ distinct old
  | release ports next ih =>
    rw [going_release]
    exact ih _ distinct old
  | mapPort socket next ih => exact ih site.gateway distinct old

/-- The place that a site is surveyed from. -/
def ground (site : SurveySite) : SurveyPlace := { endpoint := site.endpoint }

/-- What a site's survey comes to. -/
def outcome (site : SurveySite) : Except Error NatType × SurveyPlace :=
  site.evaluate site.ground (.ofConfig site.config site.me.address)

/-- A survey ends with its outcome however the packets are delayed, as long as none is lost. -/
theorem inevitable_start (measured : site.config.backoff.MeasuredPast) (distinct : site.chance.Distinct site.outcome.2.drawn) :
    Inevitable site.Step (fun w => w.surveyor.result? = some site.outcome.1) site.start :=
  show Inevitable site.Step _ (site.going site.ground (.ofConfig site.config site.me.address) .halted site.begun site.endpoint.traffic [])
    from inevitable_going measured _ distinct (by simp)

/-- What is over stays over. -/
theorem result?_of_step {w later : SurveyWorld} {result : Except Error NatType} (step : site.Step w later)
    (ended : w.surveyor.result? = some result) : later.surveyor.result? = some result := by
  obtain ⟨now, ⟨me, backoff, gateway, state, drawn⟩, endpoint, translations, flight⟩ := w
  cases state with
  | waiting transaction next => cases ended
  | halted => cases ended
  | finished known =>
    cases step with
    | deliver later flies =>
      unfold arrive
      split
      · exact ended
      · split
        · exact ended
        · exact ended
    | timeout later rings => cases rings

end

end

end SurveySite

end NatTraversal
