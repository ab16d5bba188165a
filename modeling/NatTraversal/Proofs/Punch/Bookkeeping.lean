import NatTraversal.Proofs.Punch.Parents
import NatTraversal.Proofs.Punch.Requests

namespace NatTraversal

/-- Whether a slot counts towards the parents that there may be: it is registered, or waits for an answer. -/
def Slot.isTaken (slot : Slot) : Bool := slot.registered || slot.pending.isSome

/-- A request to a parent that has gone out, and what it went out upon. -/
structure Inquiry where
  cause : PunchInput
  message : Message

namespace Inquiry

def of? (cause : PunchInput) : PunchEffect → Option Inquiry
  | .send message => if message.body.asksParent then some ⟨cause, message⟩ else none
  | _ => none

/-- What is known of first tickets once an inquiry has gone out. What goes out upon the alarm of a request is that request again,
under a new ticket. -/
def trace (origin : Ticket → Ticket) (inquiry : Inquiry) : Ticket → Ticket :=
  match inquiry.cause with
  | .alarm (.parentTimeout id) => fun ticket => if ticket = inquiry.message.ticket then origin id else origin ticket
  | _ => origin

/-- The ticket that a request has first gone out under, by any ticket that it has gone out under. -/
def origin (sent : List Inquiry) : Ticket → Ticket := sent.foldl trace id

/-- How often the request has gone out that first went out under a ticket. -/
def transmissions (sent : List Inquiry) (first : Ticket) : Nat := sent.countP fun inquiry => origin sent inquiry.message.ticket = first

theorem origin_append (sent : List Inquiry) (inquiry : Inquiry) : origin (sent ++ [inquiry]) = inquiry.trace (origin sent) := by
  rw [origin, List.foldl_append]
  rfl

theorem trace_of_unhurried {inquiry : Inquiry} (unhurried : ∀ id, inquiry.cause ≠ .alarm (.parentTimeout id))
    (origin : Ticket → Ticket) : inquiry.trace origin = origin := by
  unfold trace
  split
  · rename_i id cause
    exact absurd cause (unhurried id)
  · rfl

end Inquiry

namespace Puncher

/-- The requests to parents among what is done upon an input, in order. -/
def inquiriesOf (cause : PunchInput) (effects : List PunchEffect) : List Inquiry := effects.filterMap (Inquiry.of? cause)

/-- The requests that a puncher has sent to parents, in order. -/
def inquiries (log : List Deed) : List Inquiry := log.flatMap fun deed => inquiriesOf deed.input deed.effects

/-- Whether whatever leads to a slot leads to one that waits for it. -/
def Mapped (p : Puncher) : Prop :=
  ∀ id key, p.requests.get? id = some key → ∃ request, p.awaited? key = some request ∧ request.id = id

/-- What holds of the slots whatever tickets are drawn. -/
structure Booked (p : Puncher) : Prop where
  mapped : p.Mapped
  room : p.busyCount ≤ p.enrollment.maxParents.toNat

/-- A slot no longer waits for a request. -/
def freed (p : Puncher) (id : Ticket) (key : Socket) (slot : Slot) : Puncher :=
  { p with requests := p.requests.erase id, slots := p.slots.insert key { slot with pending := none } }

/-- Whether a slot waits for the answer to a message that has gone to its address. -/
def Expects (p : Puncher) (message : Message) : Prop :=
  ∃ key slot request, p.slots.get? key = some slot ∧ slot.pending = some request ∧ message.ticket = request.id ∧
    message.body = request.body ∧ message.dest = slot.address

section

variable {c : Surroundings} {input : PunchInput} {p q : Puncher} {effects : List PunchEffect} {key : Socket} {slot later : Slot}

theorem busyCount_insert_of_known (known : p.slots.get? key = some slot) (same : q.slots = p.slots.insert key later) :
    q.busyCount + slot.isTaken.toNat = p.busyCount + later.isTaken.toNat := by
  obtain ⟨before, after, values, inserted⟩ := Table.values_insert_of_known known
  have split : ∀ slot : Slot, ((before ++ slot :: after).filter Slot.isTaken).length =
      (before.filter Slot.isTaken).length + slot.isTaken.toNat + (after.filter Slot.isTaken).length := by
    intro slot
    rw [List.filter_append, List.length_append, List.filter_cons]
    cases slot.isTaken with
    | true =>
      simp
      omega
    | false => simp
  have earlier : p.busyCount = ((before ++ slot :: after).filter Slot.isTaken).length := by rw [← values]; rfl
  have now : q.busyCount = ((before ++ later :: after).filter Slot.isTaken).length := by rw [← inserted, ← same]; rfl
  rw [earlier, now, split, split]
  omega

theorem busyCount_insert_of_new (absent : p.slots.get? key = none) (same : q.slots = p.slots.insert key later) :
    q.busyCount = p.busyCount + later.isTaken.toNat := by
  have now : q.busyCount = ((p.slots.values ++ [later]).filter Slot.isTaken).length := by
    rw [← Table.values_insert_of_new absent, ← same]
    rfl
  rw [now, List.filter_append, List.length_append]
  cases taken : later.isTaken <;> simp [taken] <;> rfl

theorem awaited?_eq (known : p.slots.get? key = some slot) : p.awaited? key = slot.pending := by
  rw [awaited?, known, Option.bind_some]

theorem awaited?_of_insert (same : q.slots = p.slots.insert key later) (other : Socket) :
    q.awaited? other = if other = key then later.pending else p.awaited? other := by
  rw [awaited?, same, Table.get?_insert]
  split <;> rfl

theorem awaited?_of_kept (known : p.slots.get? key = some slot) (same : q.slots = p.slots.insert key later)
    (kept : later.pending = slot.pending) (other : Socket) : q.awaited? other = p.awaited? other := by
  rw [awaited?_of_insert same]
  split
  · rename_i own
    rw [kept, own, awaited?_eq known]
  · rfl

/-- A request that is sent again leaves its slot for a moment. -/
theorem asked_freed (p : Puncher) (id : Ticket) (key : Socket) (slot : Slot) (request : ParentRequest) (alarms : Alarms PunchAlarm) :
    ({ p with requests := p.requests.erase id } : Puncher).asked key slot request alarms =
      (p.freed id key slot).asked key { slot with pending := none } request alarms := by
  simp only [asked, freed, Table.insert_insert]

theorem awaited?_asked (key : Socket) (slot : Slot) (request : ParentRequest) (alarms : Alarms PunchAlarm) (other : Socket) :
    (p.asked key slot request alarms).awaited? other = if other = key then some request else p.awaited? other := by
  have slots : (p.asked key slot request alarms).slots = p.slots.insert key { slot with pending := some request } := rfl
  exact awaited?_of_insert slots other

theorem Mapped.of_same (mapped : p.Mapped) (requests : q.requests = p.requests) (awaited : ∀ key, q.awaited? key = p.awaited? key) :
    q.Mapped := by
  intro id key known
  rw [awaited]
  exact mapped id key (requests ▸ known)

theorem Mapped.frees (mapped : p.Mapped) {id : Ticket} (own : p.requests.get? id = some key) (requests : q.requests = p.requests.erase id)
    (others : ∀ other, other ≠ key → q.awaited? other = p.awaited? other) : q.Mapped := by
  intro ticket slot known
  rw [requests, Table.get?_erase] at known
  split at known
  · cases known
  · rename_i another
    obtain ⟨request, waits, named⟩ := mapped ticket slot known
    have apart : slot ≠ key := by
      rintro rfl
      obtain ⟨first, waits_first, named_first⟩ := mapped id slot own
      cases waits.symm.trans waits_first
      exact another (named.symm.trans named_first)
    exact ⟨request, (others slot apart).trans waits, named⟩

theorem Mapped.asks (mapped : p.Mapped) (idle : p.awaited? key = none) (slot : Slot) (request : ParentRequest)
    (alarms : Alarms PunchAlarm) : (p.asked key slot request alarms).Mapped := by
  intro ticket other known
  rw [awaited?_asked]
  change (p.requests.insert request.id key).get? ticket = some other at known
  rw [Table.get?_insert] at known
  split at known
  · rename_i same
    cases known
    exact ⟨request, if_pos rfl, same.symm⟩
  · obtain ⟨old, waits, named⟩ := mapped ticket other known
    have apart : other ≠ key := by
      rintro rfl
      cases idle.symm.trans waits
    exact ⟨old, (if_neg apart).trans waits, named⟩

theorem Booked.asks (booked : p.Booked) (idle : slot.pending = none) (same : ∀ old, p.slots.get? key = some old → old = slot)
    (room : slot.registered = true ∧ p.slots.get? key = some slot ∨ p.busyCount < p.enrollment.maxParents.toNat)
    (request : ParentRequest) (alarms : Alarms PunchAlarm) : (p.asked key slot request alarms).Booked where
  mapped := by
    refine booked.mapped.asks ?_ slot request alarms
    cases known : p.slots.get? key with
    | none => rw [awaited?, known, Option.bind_none]
    | some old => rw [awaited?_eq known, same old known, idle]
  room := by
    have taken : ({ slot with pending := some request } : Slot).isTaken.toNat = 1 := by simp [Slot.isTaken]
    have limit := booked.room
    change (p.asked key slot request alarms).busyCount ≤ p.enrollment.maxParents.toNat
    cases known : p.slots.get? key with
    | none =>
      have count := busyCount_insert_of_new (q := p.asked key slot request alarms) known rfl
      have free : p.busyCount < p.enrollment.maxParents.toNat := room.resolve_left fun listed => by cases known.symm.trans listed.2
      omega
    | some old =>
      have count := busyCount_insert_of_known (q := p.asked key slot request alarms) known rfl
      rcases room with ⟨registered, _⟩ | free
      · have before : old.isTaken.toNat = 1 := by simp [same old known, Slot.isTaken, registered]
        omega
      · omega

/-- Whatever becomes of a slot whose request is answered, it was taken before. -/
theorem Booked.frees (booked : p.Booked) {id : Ticket} (own : p.requests.get? id = some key) (known : p.slots.get? key = some slot)
    (enrollment : q.enrollment = p.enrollment) (requests : q.requests = p.requests.erase id)
    (slots : q.slots = p.slots.insert key later) : q.Booked where
  mapped := booked.mapped.frees own requests fun other apart => (awaited?_of_insert slots other).trans (if_neg apart)
  room := by
    obtain ⟨request, waits, _⟩ := booked.mapped id key own
    have taken : slot.isTaken.toNat = 1 := by simp [Slot.isTaken, (awaited?_eq known).symm.trans waits]
    have count := busyCount_insert_of_known known slots
    have limit := booked.room
    have one := later.isTaken.toNat_le
    rw [enrollment]
    omega

theorem Opening.booked (opening : Opening c input p q effects) (booked : p.Booked) : q.Booked := by
  cases opening with
  | @settles id key alarms halted mapped =>
    obtain ⟨request, waits, _⟩ := booked.mapped id key mapped
    obtain ⟨slot, known, _⟩ := Option.bind_eq_some_iff.mp waits
    have slots := Table.modify_eq_insert known fun slot => { slot with pending := none }
    exact booked.frees mapped known rfl rfl slots
  | accepts given accepted mapped known => exact booked.frees mapped known rfl rfl rfl
  | @resends id key slot request rto alarms given mapped known waits some_left =>
    rw [asked_freed]
    have freed : (p.freed id key slot).Booked := booked.frees mapped known rfl rfl rfl
    have entered : (p.freed id key slot).slots.get? key = some { slot with pending := none } := (Table.get?_insert ..).trans (if_pos rfl)
    refine freed.asks rfl (fun old found => Option.some.inj (found.symm.trans entered)) ?_ _ _
    by_cases registered : slot.registered = true
    · exact .inl ⟨registered, entered⟩
    · have taken : slot.isTaken.toNat = 1 := by simp [Slot.isTaken, waits]
      have free : ({ slot with pending := none } : Slot).isTaken.toNat = 0 := by simp [Slot.isTaken, registered]
      have count := busyCount_insert_of_known (q := p.freed id key slot) known rfl
      have limit := booked.room
      refine .inr (Nat.lt_of_lt_of_le ?_ limit)
      omega

theorem ParentMove.booked (move : ParentMove c input p q effects) (booked : p.Booked) : q.Booked := by
  cases move with
  | rests rests =>
    have same : q.busyCount = p.busyCount := by rw [busyCount, busyCount, rests.slots]
    refine ⟨booked.mapped.of_same rests.requests fun key => by rw [awaited?, awaited?, rests.slots], ?_⟩
    rw [same, rests.constant.2.2]
    exact booked.room
  | enrolls unhurried same free idle room asks => exact booked.asks idle same (.inr room) _ _
  | renews unhurried known registered idle =>
    refine booked.asks idle (fun old found => ?_) (.inl ⟨registered, known⟩) _ _
    exact Option.some.inj (found.symm.trans known)
  | @loses key slot known registered =>
    refine ⟨booked.mapped.of_same rfl fun other => awaited?_of_kept known rfl (by rfl) other, ?_⟩
    have count := busyCount_insert_of_known (q := { p with slots := p.slots.insert key { slot with registered := false } }) known rfl
    have limit := booked.room
    have taken : slot.isTaken.toNat = 1 := by simp [Slot.isTaken, registered]
    have one := ({ slot with registered := false } : Slot).isTaken.toNat_le
    change Puncher.busyCount _ ≤ p.enrollment.maxParents.toNat
    omega

theorem ParentMoves.booked (moves : ParentMoves c input p q effects) (booked : p.Booked) : q.Booked := by
  induction moves with
  | refl => exact booked
  | step _ move ih => exact move.booked ih

theorem ParentCourse.booked (course : ParentCourse c input p q effects) (booked : p.Booked) : q.Booked := by
  cases course with
  | plain moves => exact moves.booked booked
  | opened opening moves => exact moves.booked (opening.booked booked)

end

/-- What a puncher knows of the requests that it has sent to parents, as long as no ticket is drawn twice. -/
structure Ledger (chance : Chance) (p : Puncher) (sent : List Inquiry) : Prop where
  inverse : ∀ key request, p.awaited? key = some request → p.requests.get? request.id = some key
  asks : ∀ key request, p.awaited? key = some request → request.body.asksParent = true
  waits_drawn : ∀ key request, p.awaited? key = some request → chance.Draws 0 p.drawn request.id
  sent_drawn : ∀ inquiry ∈ sent, chance.Draws 0 p.drawn inquiry.message.ticket
  origin_drawn : ∀ id, chance.Draws 0 p.drawn id → chance.Draws 0 p.drawn (Inquiry.origin sent id)
  origin_fresh : ∀ id, ¬ chance.Draws 0 p.drawn id → Inquiry.origin sent id = id
  /-- No two slots wait for the same request. -/
  own : ∀ key other request later, p.awaited? key = some request → p.awaited? other = some later →
    Inquiry.origin sent request.id = Inquiry.origin sent later.id → key = other
  left : ∀ key request, p.awaited? key = some request →
    Inquiry.transmissions sent (Inquiry.origin sent request.id) + request.retriesLeft ≤ p.retries + 1
  few : ∀ first, Inquiry.transmissions sent first ≤ p.retries + 1

section

variable {c : Surroundings} {chance : Chance} {input : PunchInput} {p q : Puncher} {effects : List PunchEffect} {sent : List Inquiry}
  {key : Socket} {slot : Slot}

theorem inquiriesOf_append (cause : PunchInput) (effects later : List PunchEffect) :
    inquiriesOf cause (effects ++ later) = inquiriesOf cause effects ++ inquiriesOf cause later :=
  List.filterMap_append ..

theorem inquiriesOf_of_silent (silent : parental effects = []) (cause : PunchInput) : inquiriesOf cause effects = [] := by
  refine List.filterMap_eq_nil_iff.mpr fun effect member => ?_
  have other := List.filter_eq_nil_iff.mp silent effect member
  cases effect with
  | send message => exact if_neg other
  | _ => rfl

theorem inquiriesOf_question {request : ParentRequest} (asks : request.body.asksParent = true) (c : Surroundings) (slot : Slot)
    (cause : PunchInput) : inquiriesOf cause [.send (p.question c slot request)] = [⟨cause, p.question c slot request⟩] := by
  have told : Inquiry.of? cause (.send (p.question c slot request)) = some ⟨cause, p.question c slot request⟩ := if_pos asks
  rw [inquiriesOf, List.filterMap_cons_some told, List.filterMap_nil]

theorem undrawn (distinct : chance.Distinct (p.drawn + 1)) : ¬ chance.Draws 0 p.drawn (chance.ticket p.drawn) := by
  rintro ⟨n, _, before, same⟩
  have := distinct p.drawn n (by omega) (by omega) same
  omega

/-- Only what is known of the new ticket changes. -/
theorem transmissions_append {inquiry : Inquiry} {first : Ticket} (new : ∀ old ∈ sent, old.message.ticket ≠ inquiry.message.ticket)
    (trace : ∀ id, Inquiry.origin (sent ++ [inquiry]) id = if id = inquiry.message.ticket then first else Inquiry.origin sent id)
    (ticket : Ticket) :
    Inquiry.transmissions (sent ++ [inquiry]) ticket = Inquiry.transmissions sent ticket + if first = ticket then 1 else 0 := by
  unfold Inquiry.transmissions
  rw [List.countP_append, List.countP_singleton]
  congr 1
  · refine List.countP_congr fun old member => ?_
    rw [trace, if_neg (new old member)]
  · rw [trace, if_pos rfl]
    simp only [decide_eq_true_eq]

/-- A slot that waits for nothing comes to wait for a request that goes out under a fresh ticket: a new one, or one that has gone
out before and that no other slot waits for. -/
theorem Ledger.asks_slot (ledger : p.Ledger chance sent) (distinct : chance.Distinct (p.drawn + 1)) {request : ParentRequest}
    {inquiry : Inquiry} (first : Ticket) (named : request.id = chance.ticket p.drawn) (ticket : inquiry.message.ticket = request.id)
    (asks : request.body.asksParent = true)
    (trace : ∀ id, Inquiry.origin (sent ++ [inquiry]) id = if id = request.id then first else Inquiry.origin sent id)
    (known : first = request.id ∨ chance.Draws 0 p.drawn first)
    (own : ∀ other later, p.awaited? other = some later → Inquiry.origin sent later.id ≠ first)
    (left : Inquiry.transmissions sent first + request.retriesLeft ≤ p.retries) (key : Socket) (slot : Slot)
    (alarms : Alarms PunchAlarm) : (p.asked key slot request alarms).Ledger chance (sent ++ [inquiry]) := by
  have more : ∀ id, chance.Draws 0 p.drawn id → chance.Draws 0 (p.drawn + 1) id := fun id draws =>
    draws.mono (Nat.le_refl _) (Nat.le_add_right ..)
  have new : ∀ id, chance.Draws 0 p.drawn id → id ≠ request.id := by
    rintro id draws rfl
    exact undrawn distinct (named ▸ draws)
  have last : chance.Draws 0 (p.drawn + 1) request.id := ⟨p.drawn, Nat.zero_le _, by omega, named⟩
  have count := transmissions_append (fun old member => ticket ▸ new _ (ledger.sent_drawn old member)) (ticket ▸ trace)
  have cases_of : ∀ {other later}, (p.asked key slot request alarms).awaited? other = some later →
      other = key ∧ later = request ∨ other ≠ key ∧ p.awaited? other = some later := by
    intro other later waits
    rw [awaited?_asked] at waits
    split at waits
    · rename_i same
      exact .inl ⟨same, (Option.some.inj waits).symm⟩
    · rename_i apart
      exact .inr ⟨apart, waits⟩
  have old_origin : ∀ {other later}, p.awaited? other = some later →
      Inquiry.origin (sent ++ [inquiry]) later.id = Inquiry.origin sent later.id := fun waits =>
    (trace _).trans (if_neg (new _ (ledger.waits_drawn _ _ waits)))
  have new_origin : Inquiry.origin (sent ++ [inquiry]) request.id = first := (trace _).trans (if_pos rfl)
  exact {
    inverse := by
      intro other later waits
      change (p.requests.insert request.id key).get? later.id = some other
      rw [Table.get?_insert]
      rcases cases_of waits with ⟨rfl, rfl⟩ | ⟨_, before⟩
      · exact if_pos rfl
      · exact (if_neg (new _ (ledger.waits_drawn _ _ before))).trans (ledger.inverse _ _ before)
    asks := by
      intro other later waits
      rcases cases_of waits with ⟨_, rfl⟩ | ⟨_, before⟩
      · exact asks
      · exact ledger.asks _ _ before
    waits_drawn := by
      intro other later waits
      rcases cases_of waits with ⟨_, rfl⟩ | ⟨_, before⟩
      · exact last
      · exact more _ (ledger.waits_drawn _ _ before)
    sent_drawn := by
      intro old member
      rcases List.mem_append.mp member with before | now
      · exact more _ (ledger.sent_drawn old before)
      · rw [List.mem_singleton.mp now, ticket]
        exact last
    origin_drawn := by
      intro id draws
      rw [trace]
      split
      · rcases known with rfl | before
        · exact last
        · exact more _ before
      · rename_i apart
        have earlier := draws.earlier fun last => apart (last.trans named.symm)
        exact more _ (ledger.origin_drawn id earlier)
    origin_fresh := by
      intro id undrawn
      have apart : id ≠ request.id := by
        rintro rfl
        exact undrawn last
      rw [trace, if_neg apart]
      exact ledger.origin_fresh id fun draws => undrawn (more id draws)
    own := by
      intro one two request_one request_two waits_one waits_two same
      rcases cases_of waits_one with ⟨rfl, rfl⟩ | ⟨_, before_one⟩
      · rcases cases_of waits_two with ⟨rfl, _⟩ | ⟨_, before_two⟩
        · rfl
        · rw [new_origin, old_origin before_two] at same
          exact absurd same.symm (own _ _ before_two)
      · rcases cases_of waits_two with ⟨rfl, rfl⟩ | ⟨_, before_two⟩
        · rw [new_origin, old_origin before_one] at same
          exact absurd same (own _ _ before_one)
        · rw [old_origin before_one, old_origin before_two] at same
          exact ledger.own _ _ _ _ before_one before_two same
    left := by
      intro other later waits
      change _ ≤ p.retries + 1
      rw [count]
      rcases cases_of waits with ⟨_, rfl⟩ | ⟨_, before⟩
      · rw [new_origin, if_pos rfl]
        omega
      · rw [old_origin before, if_neg (own _ _ before).symm]
        exact ledger.left _ _ before
    few := by
      intro ticket
      change _ ≤ p.retries + 1
      rw [count]
      split
      · rename_i same
        rw [← same]
        omega
      · exact ledger.few ticket
  }

/-- A slot no longer waits. -/
theorem Ledger.frees (ledger : p.Ledger chance sent) {id : Ticket} (own : p.requests.get? id = some key)
    (constant : q.drawn = p.drawn ∧ q.backoff = p.backoff) (requests : q.requests = p.requests.erase id)
    (slots : q.slots = p.slots.insert key slot) (idle : slot.pending = none) : q.Ledger chance sent := by
  obtain ⟨drawn, backoff⟩ := constant
  have retries : q.retries = p.retries := by rw [retries, retries, backoff]
  have still : ∀ {other request}, q.awaited? other = some request → other ≠ key ∧ p.awaited? other = some request := by
    intro other request waits
    rw [awaited?_of_insert slots] at waits
    split at waits
    · cases idle.symm.trans waits
    · rename_i apart
      exact ⟨apart, waits⟩
  exact {
    inverse := by
      intro other request waits
      obtain ⟨apart, before⟩ := still waits
      rw [requests, Table.get?_erase, if_neg]
      · exact ledger.inverse other request before
      · rintro rfl
        exact apart (Option.some.inj ((ledger.inverse other request before).symm.trans own))
    asks := fun other request waits => ledger.asks other request (still waits).2
    waits_drawn := by
      rw [drawn]
      exact fun other request waits => ledger.waits_drawn other request (still waits).2
    sent_drawn := by
      rw [drawn]
      exact ledger.sent_drawn
    origin_drawn := by
      rw [drawn]
      exact ledger.origin_drawn
    origin_fresh := by
      rw [drawn]
      exact ledger.origin_fresh
    own := fun one two request later waits_one waits_two => ledger.own one two request later (still waits_one).2 (still waits_two).2
    left := by
      rw [retries]
      exact fun other request waits => ledger.left other request (still waits).2
    few := by
      rw [retries]
      exact ledger.few
  }

theorem Ledger.of_same (ledger : p.Ledger chance sent) (drawn : p.drawn ≤ q.drawn) (backoff : q.backoff = p.backoff)
    (requests : q.requests = p.requests) (awaited : ∀ key, q.awaited? key = p.awaited? key) : q.Ledger chance sent := by
  have retries : q.retries = p.retries := by rw [retries, retries, backoff]
  have more : ∀ id, chance.Draws 0 p.drawn id → chance.Draws 0 q.drawn id := fun id draws => draws.mono (Nat.le_refl _) drawn
  exact {
    inverse := by
      simp only [awaited, requests]
      exact ledger.inverse
    asks := by
      simp only [awaited]
      exact ledger.asks
    waits_drawn := by
      simp only [awaited]
      exact fun key request waits => more _ (ledger.waits_drawn key request waits)
    sent_drawn := fun inquiry member => more _ (ledger.sent_drawn inquiry member)
    origin_drawn := by
      intro id draws
      by_cases before : chance.Draws 0 p.drawn id
      · exact more _ (ledger.origin_drawn id before)
      · rwa [ledger.origin_fresh id before]
    origin_fresh := fun id undrawn => ledger.origin_fresh id fun before => undrawn (more id before)
    own := by
      simp only [awaited]
      exact ledger.own
    left := by
      simp only [awaited, retries]
      exact ledger.left
    few := by
      rw [retries]
      exact ledger.few
  }

/-- A request that has not gone out before begins its own count. -/
theorem Ledger.asks_fresh (ledger : p.Ledger c.chance sent) (distinct : c.chance.Distinct (p.drawn + 1))
    (unhurried : ∀ id, input ≠ .alarm (.parentTimeout id)) {body : Body} (asks : body.asksParent = true) (key : Socket) (slot : Slot)
    (alarms : Alarms PunchAlarm) :
    (p.asked key slot (p.freshRequest c body) alarms).Ledger c.chance
      (sent ++ inquiriesOf input [.send (p.question c slot (p.freshRequest c body))]) := by
  have fresh := undrawn distinct
  have origin := ledger.origin_fresh _ fresh
  have unsent : Inquiry.transmissions sent (c.chance.ticket p.drawn) = 0 := by
    refine List.countP_eq_zero.mpr fun old member => ?_
    rw [decide_eq_true_eq]
    intro same
    exact fresh (same ▸ ledger.origin_drawn _ (ledger.sent_drawn old member))
  rw [inquiriesOf_question asks]
  refine ledger.asks_slot distinct (c.chance.ticket p.drawn) rfl rfl asks (fun id => ?_) (.inl rfl)
    (fun other later waits same => ?_) ?_ key slot alarms
  · rw [Inquiry.origin_append, Inquiry.trace_of_unhurried unhurried]
    split
    · rename_i same
      rw [same]
      exact origin
    · rfl
  · exact fresh (same ▸ ledger.origin_drawn _ (ledger.waits_drawn other later waits))
  · rw [unsent, Nat.zero_add]
    exact Nat.le_refl _

theorem Opening.ledger (opening : Opening c input p q effects) (ledger : p.Ledger c.chance sent) (mapped : p.Mapped)
    (distinct : c.chance.Distinct q.drawn) : q.Ledger c.chance (sent ++ inquiriesOf input effects) := by
  cases opening with
  | @settles id key alarms halted own =>
    obtain ⟨request, waits, _⟩ := mapped id key own
    obtain ⟨slot, known, _⟩ := Option.bind_eq_some_iff.mp waits
    have slots := Table.modify_eq_insert known fun slot => { slot with pending := none }
    rw [inquiriesOf_of_silent rfl, List.append_nil]
    exact ledger.frees own ⟨rfl, rfl⟩ rfl slots rfl
  | @accepts answer remote here key slot alarms given accepted own known =>
    have silent : ∀ registered : Bool,
        inquiriesOf input (if registered then [] else [.report (.parentRegistered answer.source.address)]) = [] := by
      intro registered
      cases registered <;> rfl
    rw [silent, List.append_nil]
    exact ledger.frees own ⟨rfl, rfl⟩ rfl rfl rfl
  | @resends id key slot request rto alarms given own known waits some_left =>
    obtain ⟨waiting, awaited, named⟩ := mapped id key own
    rw [awaited?_eq known, waits] at awaited
    cases awaited
    subst named
    have waited : p.awaited? key = some request := (awaited?_eq known).trans waits
    have asks : (p.freshRetry c request rto).body.asksParent = true := ledger.asks key request waited
    have freed : (p.freed request.id key slot).Ledger c.chance sent := ledger.frees own ⟨rfl, rfl⟩ rfl rfl rfl
    rw [asked_freed, inquiriesOf_question asks]
    refine freed.asks_slot distinct (Inquiry.origin sent request.id) rfl rfl asks (fun id => ?_)
      (.inr (ledger.origin_drawn _ (ledger.waits_drawn key request waited))) ?_ ?_ key _ alarms
    · rw [Inquiry.origin_append, given]
      rfl
    · intro other later still same
      have still := (awaited?_of_insert (p := p) (q := p.freed request.id key slot) rfl other).symm.trans still
      split at still
      · cases still
      · rename_i apart
        exact apart (ledger.own other key later request still waited same)
    · have left := ledger.left key request waited
      change _ + (request.retriesLeft - 1) ≤ p.retries
      omega

theorem ParentMove.ledger (move : ParentMove c input p q effects) (ledger : p.Ledger c.chance sent)
    (distinct : c.chance.Distinct q.drawn) : q.Ledger c.chance (sent ++ inquiriesOf input effects) := by
  cases move with
  | rests rests =>
    rw [inquiriesOf_of_silent rests.silent, List.append_nil]
    exact ledger.of_same rests.drawn rests.constant.2.1 rests.requests fun key => by rw [awaited?, awaited?, rests.slots]
  | enrolls unhurried same free idle room asks => exact ledger.asks_fresh distinct unhurried asks _ _ _
  | renews unhurried known registered idle => exact ledger.asks_fresh distinct unhurried rfl _ _ _
  | @loses key slot known registered =>
    rw [inquiriesOf, List.filterMap_cons_none rfl, List.filterMap_nil, List.append_nil]
    exact ledger.of_same (Nat.le_refl _) rfl rfl fun other => awaited?_of_kept known rfl (by rfl) other

theorem ParentMove.drawn_le (move : ParentMove c input p q effects) : p.drawn ≤ q.drawn := by
  cases move with
  | rests rests => exact rests.drawn
  | enrolls => exact Nat.le_add_right ..
  | renews => exact Nat.le_add_right ..
  | loses => exact Nat.le_refl _

theorem ParentMoves.drawn_le (moves : ParentMoves c input p q effects) : p.drawn ≤ q.drawn := by
  induction moves with
  | refl => exact Nat.le_refl _
  | step _ move ih => exact Nat.le_trans ih move.drawn_le

theorem ParentMoves.ledger (moves : ParentMoves c input p q effects) (ledger : p.Ledger c.chance sent)
    (distinct : c.chance.Distinct q.drawn) : q.Ledger c.chance (sent ++ inquiriesOf input effects) := by
  induction moves with
  | refl => rwa [inquiriesOf, List.filterMap_nil, List.append_nil]
  | step _ move ih =>
    rw [inquiriesOf_append, ← List.append_assoc]
    exact move.ledger (ih (distinct.mono move.drawn_le)) distinct

theorem ParentCourse.ledger (course : ParentCourse c input p q effects) (ledger : p.Ledger c.chance sent) (mapped : p.Mapped)
    (distinct : c.chance.Distinct q.drawn) : q.Ledger c.chance (sent ++ inquiriesOf input effects) := by
  cases course with
  | plain moves => exact moves.ledger ledger distinct
  | opened opening moves =>
    rw [inquiriesOf_append, ← List.append_assoc]
    exact moves.ledger (opening.ledger ledger mapped (distinct.mono moves.drawn_le)) distinct

/-! Every request goes to where its slot is. -/

theorem expects_asked (p : Puncher) (c : Surroundings) (key : Socket) (slot : Slot) (request : ParentRequest) (alarms : Alarms PunchAlarm) :
    (p.asked key slot request alarms).Expects (p.question c slot request) :=
  ⟨key, { slot with pending := some request }, request, (Table.get?_insert ..).trans (if_pos rfl), rfl, rfl, rfl, rfl⟩

theorem Expects.of_insert {message : Message} {later : Slot} (expects : p.Expects message) (slots : q.slots = p.slots.insert key later)
    (kept : ∀ slot request, p.slots.get? key = some slot → slot.pending = some request →
      later.pending = some request ∧ later.address = slot.address) : q.Expects message := by
  obtain ⟨own, slot, request, known, waits, ticket, body, dest⟩ := expects
  by_cases same : own = key
  · subst same
    obtain ⟨still, address⟩ := kept slot request known waits
    exact ⟨own, later, request, by rw [slots, Table.get?_insert, if_pos rfl], still, ticket, body, address ▸ dest⟩
  · exact ⟨own, slot, request, by rw [slots, Table.get?_insert, if_neg same]; exact known, waits, ticket, body, dest⟩

theorem ParentMove.expects {message : Message} (move : ParentMove c input p q effects) (expects : p.Expects message) :
    q.Expects message := by
  cases move with
  | rests rests =>
    obtain ⟨own, slot, request, known, waiting⟩ := expects
    exact ⟨own, slot, request, rests.slots ▸ known, waiting⟩
  | enrolls unhurried same free idle room asks =>
    refine expects.of_insert rfl fun slot request known waits => ?_
    cases (same slot known ▸ idle).symm.trans waits
  | renews unhurried known registered idle =>
    refine expects.of_insert rfl fun slot request found waits => ?_
    cases found.symm.trans known
    cases idle.symm.trans waits
  | loses known registered =>
    refine expects.of_insert rfl fun slot request found waits => ?_
    cases found.symm.trans known
    exact ⟨waits, rfl⟩

theorem ParentMove.addressed {message : Message} (move : ParentMove c input p q effects) (sent : .send message ∈ effects)
    (asks : message.body.asksParent = true) : q.Expects message := by
  cases move with
  | rests rests =>
    have silent := List.filter_eq_nil_iff.mp rests.silent _ sent
    exact absurd asks silent
  | enrolls unhurried same free idle room asks_parent =>
    cases List.mem_singleton.mp sent
    exact expects_asked ..
  | renews unhurried known registered idle =>
    cases List.mem_singleton.mp sent
    exact expects_asked ..
  | loses known registered => cases List.mem_singleton.mp sent

theorem Opening.addressed {message : Message} (opening : Opening c input p q effects) (sent : .send message ∈ effects) :
    q.Expects message := by
  cases opening with
  | settles mapped => cases sent
  | accepts given accepted mapped known =>
    split at sent
    · cases sent
    · cases List.mem_singleton.mp sent
  | resends given mapped known waits some_left =>
    cases List.mem_singleton.mp sent
    exact expects_asked ..

theorem ParentMoves.addressed {message : Message} (moves : ParentMoves c input p q effects) (earlier : List PunchEffect)
    (before : ∀ message, .send message ∈ earlier → message.body.asksParent = true → p.Expects message)
    (sent : .send message ∈ earlier ++ effects) (asks : message.body.asksParent = true) : q.Expects message := by
  induction moves with
  | refl => exact before message (by rwa [List.append_nil] at sent) asks
  | step _ move ih =>
    rw [← List.append_assoc] at sent
    rcases List.mem_append.mp sent with old | new
    · exact move.expects (ih old)
    · exact move.addressed new asks

theorem ParentCourse.addressed {message : Message} (course : ParentCourse c input p q effects) (sent : .send message ∈ effects)
    (asks : message.body.asksParent = true) : q.Expects message := by
  cases course with
  | plain moves => exact moves.addressed [] (by simp) sent asks
  | opened opening moves => exact moves.addressed _ (fun _ early _ => opening.addressed early) sent asks

end

section

variable {chance : Chance} {config : Config} {me : Identity} {p start : Puncher} {log : List Deed}

theorem booked_ofConfig (config : Config) (me : Identity) : (ofConfig config me).Booked where
  mapped _ _ known := nomatch known
  room := Nat.zero_le _

theorem Run.booked (run : Run chance start log p) (booked : start.Booked) : p.Booked := by
  induction run with
  | start => exact booked
  | @step p log c before same alarms input ih =>
    have still : ({ p with alarms } : Puncher).Booked := ⟨ih.mapped, ih.room⟩
    exact (react_course input).booked still

theorem Run.enrollment (run : Run chance start log p) : p.enrollment = start.enrollment := by
  induction run with
  | start => rfl
  | step before same alarms input ih => exact (react_moves input).constant.2.2.2.trans ih

theorem ledger_ofConfig (chance : Chance) (config : Config) (me : Identity) : (ofConfig config me).Ledger chance [] where
  inverse _ _ waits := nomatch waits
  asks _ _ waits := nomatch waits
  waits_drawn _ _ waits := nomatch waits
  sent_drawn _ member := nomatch member
  origin_drawn _ draws := draws
  origin_fresh _ _ := rfl
  own _ _ _ _ waits := nomatch waits
  left _ _ waits := nomatch waits
  few _ := Nat.zero_le _

theorem Run.ledger (run : Run chance (ofConfig config me) log p) (distinct : chance.Distinct p.drawn) :
    p.Ledger chance (inquiries log) := by
  induction run with
  | start => exact ledger_ofConfig chance config me
  | @step p log c before same alarms input ih =>
    subst same
    have less := (react_moves (c := c) (p := { p with alarms }) input).drawn_le
    have earlier := (ih (distinct.mono less)).of_same (q := { p with alarms }) (Nat.le_refl _) rfl rfl fun _ => rfl
    have later := (react_course (c := c) (p := { p with alarms }) input).ledger earlier
      (before.booked (booked_ofConfig config me)).mapped distinct
    simpa only [inquiries, List.flatMap_append, List.flatMap_singleton] using later

/-- However many answers, silences, notices and refreshes there are: no more slots are taken than there may be parents, a request
leads to the slot that waits for it and to no other, and every request goes out as often as is configured at most, each time to the
address of a slot that then waits for its answer. -/
theorem Run.bookkeeping (run : Run chance (ofConfig config me) log p) (distinct : chance.Distinct p.drawn) :
    p.busyCount ≤ config.enrollment.maxParents.toNat ∧
    (∀ id key, p.requests.get? id = some key ↔ ∃ request, p.awaited? key = some request ∧ request.id = id) ∧
    (∀ first, Inquiry.transmissions (inquiries log) first ≤ max 1 config.punch.backoff.attempts.toNat) ∧
    ∀ c alarms input message, .send message ∈ (({ p with alarms } : Puncher).react c input).2 → message.body.asksParent = true →
      (({ p with alarms } : Puncher).react c input).1.Expects message := by
  have booked := run.booked (booked_ofConfig config me)
  have ledger := run.ledger distinct
  have room := booked.room
  rw [run.enrollment] at room
  refine ⟨room, fun id key => ⟨booked.mapped id key, ?_⟩, fun first => ?_, fun c alarms input message => ?_⟩
  · rintro ⟨request, waits, rfl⟩
    exact ledger.inverse key request waits
  · have retries : p.retries = config.punch.backoff.attempts.toNat - 1 := by rw [retries, run.constant]; rfl
    have few := ledger.few first
    omega
  · exact (react_course input).addressed

/-- A parent that stays silent is asked twice and the other candidate not at all, where there may be one parent. -/
theorem silent_parent_bookkeeping :
    let relay : Address := ⟨.ofOctets 10 0 0 8, 3478, 8⟩
    let other : Address := ⟨.ofOctets 10 0 0 9, 3478, 9⟩
    let config : Config := {
      punch := { backoff := ⟨500, .finite false 5404319552844595 (-52), 2⟩ }
      enrollment := { maxParents := 1, servers := [relay, other] } }
    let nat : NatType := .natted .endpointIndependent .portPreservation .endpointIndependent
    let c : Surroundings := ⟨0, 0, (Roster.empty 3).enter 1 nat, .counting 0⟩
    let start := ofConfig config ⟨⟨.ofOctets 10 0 0 1, 4000, 1⟩, 0, none⟩
    let begins : PunchInput := .command .startEnrollment
    let begun := start.react c begins
    let first := c.chance.ticket 2
    let rings : PunchInput := .alarm (.parentTimeout first)
    let again := begun.1.react c rings
    let log : List Deed := [⟨begins, begun.2⟩, ⟨rings, again.2⟩]
    Run (.counting 0) start log again.1 ∧ Inquiry.transmissions (inquiries log) first = 2 ∧
      Inquiry.transmissions (inquiries log) first ≤ max 1 config.punch.backoff.attempts.toNat ∧
      again.1.busyCount = 1 ∧ again.1.busyCount ≤ config.enrollment.maxParents.toNat ∧
      ∃ request, again.1.awaited? relay.socket = some request ∧ request.id = c.chance.ticket 3 := by
  intro relay other config nat c start begins begun first rings again log
  have before : Run (.counting 0) start [⟨begins, begun.2⟩] begun.1 := .step (c := c) .start rfl {} begins
  have after : Run (.counting 0) begun.1 [⟨rings, again.2⟩] again.1 := .step (c := c) .start rfl begun.1.alarms rings
  have run : Run (.counting 0) start log again.1 := before.trans after
  have distinct : (Chance.counting 0).Distinct again.1.drawn := Chance.counting_distinct (by decide +kernel)
  obtain ⟨room, inverse, few, _⟩ := run.bookkeeping distinct
  have mapped : again.1.requests.get? (c.chance.ticket 3) = some relay.socket := by decide +kernel
  exact ⟨run, by decide +kernel, few first, by decide +kernel, room, (inverse _ _).mp mapped⟩

end

end Puncher

end NatTraversal
