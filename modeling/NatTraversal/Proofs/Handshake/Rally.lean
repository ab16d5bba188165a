import NatTraversal.Proofs.Handshake.BothCall
import NatTraversal.Proofs.Punch.Sent

namespace NatTraversal

theorem Parties.carries_two {parties : Parties} {packets : List Packet} {first second : Signal}
    (carried : List.Forall₂ parties.Carries packets [first, second]) :
    ∃ one two, packets = [one, two] ∧ parties.Carries one first ∧ parties.Carries two second := by
  obtain ⟨one, rest, carries, others, rfl⟩ := List.forall₂_cons_right_iff.mp carried
  obtain ⟨two, nothing, also, last, rfl⟩ := List.forall₂_cons_right_iff.mp others
  obtain rfl := List.forall₂_nil_right_iff.mp last
  exact ⟨one, two, rfl, carries, also⟩

namespace Peer

theorem perform_sends {effects : List PunchEffect} {x : Peer} {packet : Packet} (sent : packet ∈ (x.perform effects).2) :
    .send packet.message ∈ effects := by
  induction effects generalizing x with
  | nil => cases sent
  | cons effect effects ih =>
    cases effect with
    | send message =>
      rcases List.mem_append.mp sent with posted | later
      · obtain ⟨_, _, same⟩ := List.mem_map.mp posted
        cases same
        exact List.mem_cons_self
      · exact List.mem_cons_of_mem _ (ih later)
    | release ports => exact List.mem_cons_of_mem _ (ih sent)
    | report event => exact List.mem_cons_of_mem _ (ih sent)

/-- What a forwarded request has a pending handshake send goes out under its ticket. -/
theorem ticket_of_forward {parties : Parties} {side : Side} {x : Peer} {packet sent : Packet} {now : Nat} {port : UInt16}
    {hs : Handshake} (plays : x.Plays parties side) (carries : parties.Carries packet (.forward side.other port))
    (found : x.puncher.view.handshake (parties.key side.other) = some hs)
    (leaves : sent ∈ (x.handle now (.inbound packet.message packet.source packet.dest)).2) : sent.message.ticket = hs.pingId := by
  obtain ⟨_, _, body⟩ := carries
  have key : (parties.contactAt side.other port).key = parties.key side.other := parties.contactAt_key ..
  have tries : (x.puncher.onForwarded (x.surroundings now) (parties.contactAt side.other port) packet.message.source.address).2 = _ :=
    (Puncher.onForwarded_spec_of_handshake (key ▸ found) rfl).2
  rw [handle_inbound now plays] at leaves
  simp only [Puncher.inbound, body, tries] at leaves
  exact (Puncher.owns_of_mem_attempt (perform_sends leaves)).1

end Peer

/-- The server passes a request on, and answers it, under its own ticket. -/
theorem RendezvousServer.ticket_of_request {server : RendezvousServer} {c : Surroundings} {request message : Message} {remote : Socket}
    {peer : Contact} (asks : request.body = .connectRequest peer false) (sent : message ∈ (server.handle c request remote).2) :
    message.ticket = request.ticket := by
  simp only [handle, asks] at sent
  split at sent
  · rcases List.mem_cons.mp sent with rfl | answer
    · rfl
    · rw [List.mem_singleton.mp answer]
  · rw [List.mem_singleton.mp sent]

/-- Whether a packet answers a connect request under a ticket. -/
def Packet.answers (id : Ticket) (packet : Packet) : Bool :=
  packet.message.ticket = id ∧ packet.message.body.opcode = .connectResponse

namespace World

/-- How many answers to connect requests under a ticket are under way. The server gives one to each. -/
def answers (w : World) (id : Ticket) : Nat := w.flight.countP (·.answers id)

/-- Whether a connect request is on its way from a node to the server, under a ticket. -/
def Asks (parties : Parties) (side : Side) (id : Ticket) (w : World) : Prop :=
  ∃ packet port, packet ∈ w.flight ∧ parties.Carries packet (.request side port) ∧ packet.message.ticket = id

/-- Two nodes that have both called and still are at the first attempts of the handshakes with these tickets. -/
structure Rallies (horizon : Nat) (initial : World) (ids : Side → Ticket) (w : World) : Prop where
  reach : Reach horizon initial w
  shaking : ∀ side, ∃ hs, (w.view side).handshake (initial.parties.key side.other) = some hs ∧ hs.pingId = ids side ∧
    hs.responder = false ∧ hs.attempt = 0

variable {initial w : World} {horizon : Nat} {ids : Side → Ticket} {side : Side} {packet : Packet} {port : UInt16}

/-- Whatever is under way can arrive next. -/
theorem Reach.arrives (reach : Reach horizon initial w) (flying : packet ∈ w.flight) : ∃ rest,
    w.flight.Perm (packet :: rest) ∧ Reach horizon initial ({ w with flight := rest }.deliver 0 0 packet) := by
  obtain ⟨index, inside, rfl⟩ := List.mem_iff_getElem.mp flying
  have step : w.step? 0 0 (.deliver index) = some ({ w with flight := w.flight.eraseIdx index }.deliver 0 0 w.flight[index]) := by
    simp only [step?, List.getElem?_eq_getElem inside, Option.map_some]
  have honest : w.Honest (.deliver index) := trivial
  exact ⟨_, (List.getElem_cons_eraseIdx_perm inside).symm, reach.next (Nat.zero_le _) honest step⟩

theorem ticket_of_served {now clock : Nat} {forwarding : List (UInt32 × UInt32)} {packets : List Packet} {peer : Contact}
    (body : packet.message.body = .connectRequest peer false) (served : w.serve now clock packet = w.relaying forwarding packets)
    {sent : Packet} (leaves : sent ∈ packets) : sent.message.ticket = packet.message.ticket := by
  have flights := congrArg World.flight served
  have sends := List.append_cancel_left flights
  rw [← sends] at leaves
  obtain ⟨message, answers, rfl⟩ := List.mem_map.mp leaves
  exact RendezvousServer.ticket_of_request body answers

/-- What has arrived is no answer: the answers that are under way are joined by those that it has been met with. -/
theorem answers_eq {later : World} {rest sent : List Packet} (perm : w.flight.Perm (packet :: rest))
    (other : packet.message.body.opcode ≠ .connectResponse) (flight : later.flight = rest ++ sent) (id : Ticket) :
    later.answers id = w.answers id + sent.countP (·.answers id) := by
  have uncounted : ¬ packet.answers id = true := by simp [Packet.answers, other]
  rw [answers, answers, perm.countP_eq, List.countP_cons_of_neg uncounted, flight, List.countP_append]

/-- The server passes a request on to the other node, and answers it. -/
theorem Rallies.on_request (start : initial.BothCall horizon) (rallies : Rallies horizon initial ids w) (flying : packet ∈ w.flight)
    (carries : initial.parties.Carries packet (.request side port)) :
    ∃ later passed, Rallies horizon initial ids later ∧ passed ∈ later.flight ∧
      initial.parties.Carries passed (.forward side port) ∧ (∀ id, w.answers id ≤ later.answers id) ∧
        w.answers packet.message.ticket < later.answers packet.message.ticket := by
  obtain ⟨c, signals, same, crosses, _⟩ := start.reaches rallies.reach
  rw [← same] at carries ⊢
  obtain ⟨flight, perm, reach⟩ := rallies.reach.arrives flying
  have stands := crosses.stands.with_flight flight
  let opened : World := { w with flight }
  have lists : opened.Lists c.toParties horizon side.other := crosses.lists side.other
  obtain ⟨forwarding, packets, served, carried⟩ := serve_request 0 stands lists (Nat.zero_le horizon) carries
  rw [(deliver_to_hub stands carries.2.1).trans served] at reach
  have body := carries.2.2.2
  have tickets : ∀ sent ∈ packets, sent.message.ticket = packet.message.ticket := fun sent => ticket_of_served body served
  obtain ⟨passed, answer, rfl, forwards, answers⟩ := Parties.carries_two carried
  let later := opened.relaying forwarding [passed, answer]
  have counts : ∀ id, later.answers id = w.answers id + [passed, answer].countP (·.answers id) :=
    answers_eq perm (by simp [body, Body.opcode]) rfl
  refine ⟨later, passed, ⟨reach, rallies.shaking⟩, ?_, forwards, ?_, ?_⟩
  · exact List.mem_append_right _ List.mem_cons_self
  · exact fun id => counts id ▸ Nat.le_add_right ..
  · obtain ⟨_, target, status⟩ := answers
    rw [counts]
    refine Nat.lt_add_of_pos_right (List.countP_pos_iff.mpr ⟨answer, by simp, ?_⟩)
    simp [Packet.answers, status, Body.opcode, tickets answer (by simp)]

/-- A node that is asked for while it asks tries again. -/
theorem Rallies.on_forward (start : initial.BothCall horizon) (rallies : Rallies horizon initial ids w) (flying : packet ∈ w.flight)
    (carries : initial.parties.Carries packet (.forward side.other port)) :
    ∃ later, Rallies horizon initial ids later ∧ later.Asks initial.parties side (ids side) ∧
      ∀ id, w.answers id ≤ later.answers id := by
  obtain ⟨c, signals, same, crosses, _⟩ := start.reaches rallies.reach
  obtain ⟨hs, found, named, initiates, first⟩ := rallies.shaking side
  rw [← same] at carries found
  obtain ⟨_, _, pends⟩ := (crosses.goes side).pending hs found
  obtain ⟨flight, perm, reach⟩ := rallies.reach.arrives flying
  have stands := crosses.stands.with_flight flight
  let opened : World := { w with flight }
  have here : opened.holds side packet.dest = true := by
    rw [carries.1, Side.other_other]
    exact stands.main side
  rw [deliver_to_holder stands here] at reach
  have outcome := Peer.on_forward_of_handshake 0 (stands.plays side) carries found pends.shakes pends.held rfl
  have tickets : ∀ sent ∈ ((opened.peer side).handle 0 (.inbound packet.message packet.source packet.dest)).2,
      sent.message.ticket = hs.pingId := fun sent => Peer.ticket_of_forward (stands.plays side) carries found
  generalize (opened.peer side).handle 0 (.inbound packet.message packet.source packet.dest) = result at reach outcome tickets
  have carried := outcome.packets
  simp only [Parties.attempt, initiates, Bool.false_eq_true, if_false, List.singleton_append] at carried
  obtain ⟨request, ping, packets, requests, _⟩ := Parties.carries_two carried
  have counts : ∀ id, (opened.take side result).answers id = w.answers id + result.2.countP (·.answers id) := by
    refine answers_eq perm ?_ rfl
    simp [carries.2.2, Body.opcode]
  refine ⟨opened.take side result, ⟨reach, fun one => ?_⟩, ⟨request, hs.punchPort, ?_, same ▸ requests, ?_⟩, ?_⟩
  · rcases side.eq_or_eq_other one with rfl | rfl
    · rw [take_view outcome, ← same, PunchView.handshake_withHandshake]
      exact ⟨_, rfl, named, initiates, first⟩
    · rw [take_view_other]
      exact rallies.shaking side.other
  · exact List.mem_append_right _ (by rw [packets]; exact List.mem_cons_self)
  · rw [tickets request (by rw [packets]; exact List.mem_cons_self), named]
  · exact fun id => counts id ▸ Nat.le_add_right ..

/-- A request of one node comes back as one of the other. -/
theorem Rallies.returns {id : Ticket} (start : initial.BothCall horizon) (rallies : Rallies horizon initial ids w)
    (asks : w.Asks initial.parties side id) :
    ∃ later, Rallies horizon initial ids later ∧ later.Asks initial.parties side.other (ids side.other) ∧
      (∀ other, w.answers other ≤ later.answers other) ∧ w.answers id < later.answers id := by
  obtain ⟨packet, port, flying, carries, rfl⟩ := asks
  obtain ⟨passing, passed, going, under_way, forwards, more, answered⟩ := rallies.on_request start flying carries
  rw [← side.other_other] at forwards
  obtain ⟨later, still, asks, yet_more⟩ := going.on_forward start under_way forwards
  exact ⟨later, still, asks, fun other => Nat.le_trans (more other) (yet_more other), Nat.lt_of_lt_of_le answered (yet_more _)⟩

theorem Rallies.goes_on (start : initial.BothCall horizon) (rallies : Rallies horizon initial ids w)
    (asks : w.Asks initial.parties .left (ids .left)) (n : Nat) :
    ∃ later, Rallies horizon initial ids later ∧ later.Asks initial.parties .left (ids .left) ∧
      ∀ side, n ≤ later.answers (ids side) := by
  induction n with
  | zero => exact ⟨w, rallies, asks, fun _ => Nat.zero_le _⟩
  | succ n ih =>
    obtain ⟨before, still, asking, many⟩ := ih
    obtain ⟨between, going, returned, more, answered⟩ := still.returns start asking
    obtain ⟨after, yet, asks_again, yet_more, answered_too⟩ := going.returns start returned
    refine ⟨after, yet, asks_again, fun side => ?_⟩
    cases side with
    | left => exact Nat.lt_of_le_of_lt (many .left) (Nat.lt_of_lt_of_le answered (yet_more _))
    | right => exact Nat.lt_of_le_of_lt (Nat.le_trans (many .right) (more _)) answered_too

/-- A node that has not been told of the other begins with it when it is told to call. -/
theorem BothCall.on_call (start : initial.BothCall horizon) (side : Side) (reach : Reach horizon initial w)
    (uncalled : w.calls side = initial.calls side) (still : w.view side = initial.view side) :
    ∃ later hs packets, Reach horizon initial later ∧ (later.view side).handshake (initial.parties.key side.other) = some hs ∧
      hs.responder = false ∧ hs.attempt = 0 ∧ later.view side.other = w.view side.other ∧
      later.calls side.other = w.calls side.other ∧ later.flight = w.flight ++ packets ∧
      ∃ ping, List.Forall₂ initial.parties.Carries packets [.request side hs.punchPort, ping] := by
  obtain ⟨c, signals, same, crosses, _⟩ := start.reaches reach
  have idle := start.idle side
  have apart := start.apart side
  have calls := uncalled.trans (start.calls side)
  rw [← still, ← same] at idle apart
  rw [← same] at calls ⊢
  have allowed := Peer.may_connect 0 (crosses.stands.plays side) (by rw [c.parents]; simp) (.inr (c.has_parent side))
  let none_to_give : Socket → BindAnswer := fun _ => .inUse
  have honest : w.Honest (.call side none_to_give) := fun _ _ bound => by cases bound
  obtain ⟨later, step⟩ : ∃ later, w.step? 0 0 (.call side none_to_give) = some later := by simp [step?, calls]
  obtain ⟨punchPort, allocated, hs, result, begun, _, outcome, rfl, _⟩ := step?_call crosses.stands (c.natted side.other)
    (c.parents side.other) idle apart allowed calls honest step
  have initiates : hs.responder = false := by rw [begun]; rfl
  have carried := outcome.packets
  simp only [Parties.attempt, initiates, Bool.false_eq_true, if_false, List.singleton_append] at carried
  refine ⟨_, Puncher.attempted hs, result.2, reach.next (Nat.zero_le _) honest step, ?_, initiates, ?_, take_view_other .., ?_, rfl, _,
    carried⟩
  · rw [take_view outcome]
    exact PunchView.handshake_withHandshake ..
  · rw [begun]
    rfl
  · exact Function.update_of_ne side.other_ne ..

/-- Two nodes that call each other come to a rally once the request of one has reached the other. -/
theorem BothCall.rallies (start : initial.BothCall horizon) :
    ∃ ids w, Rallies horizon initial ids w ∧ w.Asks initial.parties .left (ids .left) := by
  obtain ⟨one, left, first, reach, shakes, initiates, fresh, still, uncalled, flight, _, carried⟩ :=
    start.on_call .left .start rfl rfl
  obtain ⟨two, right, second, reaches, shakes_too, initiates_too, fresh_too, kept, _, joined, _, _⟩ :=
    start.on_call .right reach uncalled still
  let ids (side : Side) : Ticket := if side = .left then left.pingId else right.pingId
  have both : Rallies horizon initial ids two := by
    refine ⟨reaches, fun side => ?_⟩
    cases side with
    | left => exact ⟨left, (congrArg (PunchView.handshake · _) kept).trans shakes, rfl, initiates, fresh⟩
    | right => exact ⟨right, shakes_too, rfl, initiates_too, fresh_too⟩
  obtain ⟨request, _, packets, carries, _⟩ := Parties.carries_two carried
  have flying : request ∈ two.flight := by
    rw [joined, flight, packets]
    simp
  -- The ticket of the first request does not matter: what comes back is a request of the other node.
  obtain ⟨between, going, asks, _⟩ := both.returns start ⟨request, _, flying, carries, rfl⟩
  obtain ⟨after, yet, asks_again, _⟩ := going.returns start asks
  exact ⟨ids, after, yet, asks_again⟩

/-- Two nodes that call each other, and hear each other's requests before their pings, go on without end. However many
answers there are to be, a world can be reached, before any timeout, in which the server has answered so many requests of
either node's first attempt. -/
theorem BothCall.answers_without_end (start : initial.BothCall horizon) (n : Nat) :
    ∃ w, Reach horizon initial w ∧ ∀ side, ∃ hs, (w.view side).handshake (initial.parties.key side.other) = some hs ∧
      hs.attempt = 0 ∧ n ≤ w.answers hs.pingId := by
  obtain ⟨ids, w, rallies, asks⟩ := start.rallies
  obtain ⟨later, still, _, many⟩ := rallies.goes_on start asks n
  refine ⟨later, still.reach, fun side => ?_⟩
  obtain ⟨hs, found, named, _, first⟩ := still.shaking side
  exact ⟨hs, found, first, named ▸ many side⟩

/-- The transmissions that are configured bound neither what a handshake asks nor what is exchanged before a timeout. -/
theorem not_always_within_transmissions :
    (¬ ∀ (horizon : Nat) (initial w : World) (side : Side) (hs : Handshake), initial.BothCall horizon → Reach horizon initial w →
      (w.view side).handshake (initial.parties.key side.other) = some hs →
      w.answers hs.pingId ≤ (w.peer side).puncher.backoff.attempts.toNat) ∧
    ¬ ∀ (horizon : Nat) (initial : World), initial.BothCall horizon →
      ∃ bound, ∀ w, Reach horizon initial w → w.flight.length ≤ bound := by
  refine ⟨fun always => ?_, fun always => ?_⟩
  · obtain ⟨w, reach, many⟩ := crossedCalls_bothCall.answers_without_end (2 ^ 32)
    obtain ⟨hs, found, _, more⟩ := many .left
    have few := always 0 crossedCalls w .left hs crossedCalls_bothCall reach found
    have least : (w.peer .left).puncher.backoff.attempts.toNat < 2 ^ 32 := UInt32.toNat_lt _
    omega
  · obtain ⟨bound, few⟩ := always 0 crossedCalls crossedCalls_bothCall
    obtain ⟨w, reach, many⟩ := crossedCalls_bothCall.answers_without_end (bound + 1)
    obtain ⟨hs, _, _, more⟩ := many .left
    have all : w.answers hs.pingId ≤ w.flight.length := List.countP_le_length
    have := few w reach
    omega

end World

end NatTraversal
