import NatTraversal.Proofs.Alarms
import NatTraversal.Proofs.Chance
import NatTraversal.Proofs.Punch.View

namespace NatTraversal

namespace Backoff

/-- The timeout after so many retries; nothing once one has been too long to measure. -/
def timeout? (backoff : Backoff) : Nat → Option Nat
  | 0 => some backoff.first
  | count + 1 => (backoff.timeout? count).bind backoff.next?

/-- Whether a request that waits so long, with so many retries left, has come there by its retries alone. -/
def Schedules (backoff : Backoff) (rto left : Nat) : Prop :=
  ∃ count, backoff.timeout? count = some rto ∧ count + left = backoff.attempts.toNat - 1

theorem schedules_first (backoff : Backoff) : backoff.Schedules backoff.first (backoff.attempts.toNat - 1) := ⟨0, rfl, by omega⟩

theorem Schedules.next {backoff : Backoff} {rto left later : Nat} (schedules : backoff.Schedules rto left) (some_left : left ≠ 0)
    (next : backoff.next? rto = some later) : backoff.Schedules later (left - 1) := by
  obtain ⟨count, timeout, total⟩ := schedules
  refine ⟨count + 1, ?_, by omega⟩
  rw [timeout?, timeout, Option.bind_some, next]

end Backoff

/-- Whether an effect is about parents and probes alone. What it sends goes out under a ticket of its own. -/
def PunchEffect.IsAside (fresh : Ticket → Prop) : PunchEffect → Prop
  | .send message => fresh message.ticket
  | .release _ => False
  | .report (.parentRegistered _) => True
  | .report (.parentLost _) => True
  | .report (.probeSucceeded ..) => True
  | .report _ => False

theorem PunchEffect.IsAside.mono {fresh more : Ticket → Prop} {effect : PunchEffect} (aside : effect.IsAside fresh)
    (less : ∀ id, fresh id → more id) : effect.IsAside more := by
  cases effect with
  | send message => exact less _ aside
  | release ports => exact aside
  | report event => cases event <;> exact aside

namespace Puncher

/-- The request to a parent that is waited for. -/
def awaited? (p : Puncher) (key : Socket) : Option ParentRequest := (p.slots.get? key).bind (·.pending)

/-- Whether a ticket belongs to something that is waited for outside of handshakes and paths. -/
def Spares (p : Puncher) (id : Ticket) : Prop :=
  (p.probes.get? id).isSome = true ∨ (p.requests.get? id).isSome = true ∨ ∃ key request, p.awaited? key = some request ∧ request.id = id

/-- Whether every request to a parent waits as long as its retries say. -/
def Paced (p : Puncher) : Prop :=
  ∀ key request, p.awaited? key = some request → p.backoff.Schedules request.rto request.retriesLeft

/-- What a puncher does about its parents and its probes. Handshakes and paths stay, and so does every alarm but those
of what it waited for, and of what it has a fresh ticket for. -/
structure Aside (fresh : Ticket → Prop) (p q : Puncher) (effects : List PunchEffect) : Prop where
  frame : q = { p with
    probes := q.probes, slots := q.slots, requests := q.requests, enrolling := q.enrolling, alarms := q.alarms, drawn := q.drawn }
  drawn : p.drawn ≤ q.drawn
  spares : ∀ id, q.Spares id → p.Spares id ∨ fresh id
  alarms : ∀ id, ¬ p.Spares id → ¬ fresh id → q.alarms.table.get? id = p.alarms.table.get? id
  paced : p.Paced → q.Paced
  effects : ∀ effect ∈ effects, effect.IsAside fresh

/-- The same where a ticket is fresh that is drawn on the way. -/
def StepsAside (c : Surroundings) (p q : Puncher) (effects : List PunchEffect) : Prop :=
  Aside (c.chance.Draws p.drawn q.drawn) p q effects

section

variable {fresh more : Ticket → Prop} {c : Surroundings} {p q r : Puncher} {effects later : List PunchEffect}

namespace Aside

theorem refl (fresh : Ticket → Prop) (p : Puncher) : Aside fresh p p [] where
  frame := rfl
  drawn := Nat.le_refl _
  spares _ := .inl
  alarms _ _ _ := rfl
  paced := id
  effects := by simp

theorem mono (aside : Aside fresh p q effects) (less : ∀ id, fresh id → more id) : Aside more p q effects where
  frame := aside.frame
  drawn := aside.drawn
  spares id spare := (aside.spares id spare).imp_right (less id)
  alarms id idle old := aside.alarms id idle fun new => old (less id new)
  paced := aside.paced
  effects effect member := (aside.effects effect member).mono less

theorem trans (first : Aside fresh p q effects) (second : Aside fresh q r later) : Aside fresh p r (effects ++ later) where
  frame := by
    have one := first.frame
    calc r = _ := second.frame
      _ = _ := by rw [one]
  drawn := Nat.le_trans first.drawn second.drawn
  spares id spare := (second.spares id spare).elim (first.spares id) .inr
  alarms id idle old := by
    have still : ¬ q.Spares id := fun spare => (first.spares id spare).elim idle old
    rw [second.alarms id still old, first.alarms id idle old]
  paced := second.paced ∘ first.paced
  effects effect member := (List.mem_append.mp member).elim (first.effects effect) (second.effects effect)

/-- A change of slots that leaves alone what they wait for. -/
theorem of_slots {slots : Table Socket Slot} (same : ∀ key, (slots.get? key).bind (·.pending) = p.awaited? key)
    (aside : ∀ effect ∈ effects, effect.IsAside fresh) : Aside fresh p { p with slots } effects where
  frame := rfl
  drawn := Nat.le_refl _
  spares id spare := by
    rcases spare with probe | request | ⟨key, request, waits, own⟩
    · exact .inl (.inl probe)
    · exact .inl (.inr (.inl request))
    · exact .inl (.inr (.inr ⟨key, request, same key ▸ waits, own⟩))
  alarms _ _ _ := rfl
  paced paced key request waits := paced key request (same key ▸ waits)
  effects := aside

/-- What is no longer waited for, with its alarm or without. -/
theorem of_fewer (probes : Table Ticket Probe) (requests : Table Ticket Socket) (slots : Table Socket Slot)
    (alarms : Alarms PunchAlarm) (probe : ∀ id, (probes.get? id).isSome = true → (p.probes.get? id).isSome = true)
    (request : ∀ id, (requests.get? id).isSome = true → (p.requests.get? id).isSome = true)
    (slot : ∀ key request, (slots.get? key).bind (·.pending) = some request → p.awaited? key = some request)
    (alarm : ∀ id, ¬ p.Spares id → alarms.table.get? id = p.alarms.table.get? id)
    (aside : ∀ effect ∈ effects, effect.IsAside fresh) : Aside fresh p { p with probes, requests, slots, alarms } effects where
  frame := rfl
  drawn := Nat.le_refl _
  spares id spare := by
    rcases spare with known | known | ⟨key, waits, known, own⟩
    · exact .inl (.inl (probe id known))
    · exact .inl (.inr (.inl (request id known)))
    · exact .inl (.inr (.inr ⟨key, waits, slot key waits known, own⟩))
  alarms id idle _ := alarm id idle
  paced paced key waits known := paced key waits (slot key waits known)
  effects := aside

theorem of_draws (fresh : Ticket → Prop) (p : Puncher) (count : Nat) : Aside fresh p { p with drawn := p.drawn + count } [] where
  frame := rfl
  drawn := Nat.le_add_right ..
  spares _ := .inl
  alarms _ _ _ := rfl
  paced := id
  effects := by simp

end Aside

namespace StepsAside

theorem refl (c : Surroundings) (p : Puncher) : p.StepsAside c p [] := Aside.refl _ p

theorem trans (first : p.StepsAside c q effects) (second : q.StepsAside c r later) : p.StepsAside c r (effects ++ later) := by
  have one : Aside (c.chance.Draws p.drawn r.drawn) p q effects :=
    Aside.mono first fun _ draws => draws.mono (Nat.le_refl _) second.drawn
  have two : Aside (c.chance.Draws p.drawn r.drawn) q r later :=
    Aside.mono second fun _ draws => draws.mono first.drawn (Nat.le_refl _)
  exact one.trans two

theorem followedBy {step : PunchStep} {next : Puncher → PunchStep} (first : p.StepsAside c step.1 step.2)
    (second : step.1.StepsAside c (next step.1).1 (next step.1).2) :
    p.StepsAside c (followedBy step next).1 (followedBy step next).2 :=
  first.trans second

/-- What is done for each of a list in turn. -/
theorem fold {α : Type} {next : α → Puncher → PunchStep} (each : ∀ a (q : Puncher), q.StepsAside c (next a q).1 (next a q).2)
    (list : List α) {step : PunchStep} (first : p.StepsAside c step.1 step.2) :
    p.StepsAside c (list.foldl (fun step a => Puncher.followedBy step (next a)) step).1
      (list.foldl (fun step a => Puncher.followedBy step (next a)) step).2 := by
  induction list generalizing step with
  | nil => exact first
  | cons a list ih => exact ih (first.followedBy (each a _))

end StepsAside

end

variable {c : Surroundings} {fresh : Ticket → Prop}

theorem lose_aside (fresh : Ticket → Prop) (p : Puncher) (key : Socket) : Aside fresh p (p.lose key).1 (p.lose key).2 := by
  unfold lose
  split
  · rename_i slot known
    split
    · refine .of_slots ?_ (by simp [PunchEffect.IsAside])
      intro other
      rw [awaited?, Table.get?_insert]
      by_cases same : other = key
      · rw [if_pos same, same, known]
        rfl
      · rw [if_neg same]
    · exact .refl fresh p
  · exact .refl fresh p

/-- A slot comes to wait for a request under a fresh ticket, once what it waited for is given up. -/
theorem place_aside {p : Puncher} {request : ParentRequest} {key : Socket} {slot : Slot} (requests : Table Ticket Socket)
    (alarms : Alarms PunchAlarm) {due : Nat} {message : Message}
    (entered : ∀ id, (requests.get? id).isSome = true → (p.requests.get? id).isSome = true)
    (kept : ∀ id, ¬ p.Spares id → alarms.table.get? id = p.alarms.table.get? id) (new : fresh request.id)
    (paced : p.Paced → p.backoff.Schedules request.rto request.retriesLeft)
    (aside : (PunchEffect.send message).IsAside fresh) :
    Aside fresh p { p with
      requests := requests.insert request.id key
      slots := p.slots.insert key { slot with pending := some request }
      alarms := alarms.arm request.id due (.parentTimeout request.id) } [.send message] := by
  have after : ∀ other, ((p.slots.insert key { slot with pending := some request }).get? other).bind (·.pending) =
      if other = key then some request else p.awaited? other := by
    intro other
    rw [Table.get?_insert]
    split <;> rfl
  refine ⟨rfl, Nat.le_refl _, ?_, ?_, ?_, by simpa using aside⟩
  · intro id spare
    rcases spare with probe | known | ⟨other, found, waits, own⟩
    · exact .inl (.inl probe)
    · simp only [Table.get?_insert] at known
      split at known
      · rename_i own
        exact .inr (own ▸ new)
      · exact .inl (.inr (.inl (entered id known)))
    · have waits := (after other).symm.trans waits
      split at waits
      · cases waits
        exact .inr (own ▸ new)
      · exact .inl (.inr (.inr ⟨other, found, waits, own⟩))
  · intro id idle old
    have other : id ≠ request.id := by
      rintro rfl
      exact old new
    rw [Alarms.get?_arm, if_neg other]
    exact kept id idle
  · intro before other found waits
    have waits := (after other).symm.trans waits
    split at waits
    · cases waits
      exact paced before
    · exact before other found waits

/-- A request under a fresh ticket takes the place of the one that its slot waits for. -/
theorem sendRequest_aside {p : Puncher} {request : ParentRequest} (key : Socket) (new : fresh request.id)
    (paced : p.Paced → p.backoff.Schedules request.rto request.retriesLeft) :
    Aside fresh p (p.sendRequest c key request).1 (p.sendRequest c key request).2 := by
  unfold sendRequest
  cases known : p.slots.get? key with
  | none => exact .refl fresh p
  | some slot =>
    dsimp only
    cases pending : slot.pending with
    | none =>
      refine place_aside p.requests p.alarms (fun _ => id) (fun _ _ => rfl) new paced ?_
      exact new
    | some old =>
      refine place_aside (p.requests.erase old.id) (p.alarms.drop old.id) (fun _ => Table.isSome_get?_of_erase) ?_ new paced ?_
      · intro id idle
        have other : id ≠ old.id := by
          rintro rfl
          exact idle (.inr (.inr ⟨key, old, by rw [awaited?, known, Option.bind_some, pending], rfl⟩))
        rw [Alarms.get?_drop, if_neg other]
      · exact new

/-- One draw, and then what is done under its ticket. -/
theorem stepsAside_of_draw {p q : Puncher} {effects : List PunchEffect}
    (aside : Aside (fun id => id = c.chance.ticket p.drawn) { p with drawn := p.drawn + 1 } q effects) : p.StepsAside c q effects := by
  refine ((Aside.of_draws _ p 1).trans aside).mono ?_
  rintro id rfl
  exact ⟨p.drawn, Nat.le_refl _, aside.drawn, rfl⟩

theorem request_stepsAside (p : Puncher) (key : Socket) (body : Body) :
    p.StepsAside c (p.request c key body).1 (p.request c key body).2 :=
  stepsAside_of_draw (sendRequest_aside key rfl fun _ => p.backoff.schedules_first)

theorem enroll_stepsAside (p : Puncher) (server : Address) : p.StepsAside c (p.enroll c server).1 (p.enroll c server).2 := by
  let slot := (p.slots.get? server.socket).getD ⟨server, false, none⟩
  have entered : p.StepsAside c { p with slots := p.slots.insert server.socket slot } [] := by
    refine Aside.of_slots ?_ (by simp)
    intro other
    rw [awaited?, Table.get?_insert]
    by_cases same : other = server.socket
    · rw [if_pos same, same]
      dsimp only [slot]
      cases p.slots.get? server.socket <;> rfl
    · rw [if_neg same]
  unfold enroll
  dsimp only
  split
  · exact .refl c p
  · exact entered.trans (request_stepsAside _ _ _)

theorem fill_stepsAside (p : Puncher) : p.StepsAside c (p.fill c).1 (p.fill c).2 :=
  StepsAside.fold (fun server q => q.enroll_stepsAside server) _ (Aside.of_draws _ p 1)

theorem startEnrollment_stepsAside (p : Puncher) : p.StepsAside c (p.startEnrollment c).1 (p.startEnrollment c).2 := by
  unfold startEnrollment
  split
  · exact .refl c p
  · have armed : p.StepsAside c { p with
        drawn := p.drawn + 1
        enrolling := true
        alarms := p.alarms.armEvery (c.chance.ticket p.drawn) (c.now + Time.ofMillis p.enrollment.refreshPeriod.toNat)
          (Time.ofMillis p.enrollment.refreshPeriod.toNat) .refresh } [] := by
      refine stepsAside_of_draw ⟨rfl, Nat.le_refl _, fun _ => .inl, ?_, id, by simp⟩
      intro id _ old
      exact (Alarms.get?_armEvery ..).trans (if_neg old)
    exact armed.trans (fill_stepsAside _)

/-- An answer is taken from the slot that waits for it, and its alarm is off. -/
theorem takeResponse_aside (fresh : Ticket → Prop) (p : Puncher) (response : Message) :
    Aside fresh p (p.takeResponse response).2 [] := by
  unfold takeResponse
  split
  · exact .refl fresh p
  · rename_i key known
    refine .of_fewer p.probes (p.requests.erase response.ticket)
      (p.slots.modify key fun slot => { slot with pending := none }) (p.alarms.drop response.ticket)
      (fun _ => id) (fun _ => Table.isSome_get?_of_erase) ?_ ?_ (by simp)
    · intro other request waits
      rw [Table.get?_modify] at waits
      split at waits
      · cases found : p.slots.get? other <;> simp [found] at waits
      · exact waits
    · intro id idle
      have other : id ≠ response.ticket := by
        rintro rfl
        exact idle (.inr (.inl (by rw [known]; rfl)))
      rw [Alarms.get?_drop, if_neg other]

/-- A slot whose registration changes waits for what it has waited for. -/
theorem awaited?_modify (p : Puncher) (key : Socket) {change : Slot → Slot} (keeps : ∀ slot, (change slot).pending = slot.pending)
    (other : Socket) : ((p.slots.modify key change).get? other).bind (·.pending) = p.awaited? other := by
  rw [Table.get?_modify, awaited?]
  split
  · cases p.slots.get? other <;> simp [keeps]
  · rfl

theorem onRegisterResponse_aside (fresh : Ticket → Prop) (p : Puncher) (response : Message) (status : RegisterStatus) :
    Aside fresh p (p.onRegisterResponse response status).1 (p.onRegisterResponse response status).2 := by
  have taken := takeResponse_aside fresh p response
  unfold onRegisterResponse
  generalize p.takeResponse response = outcome at taken ⊢
  obtain ⟨key?, q⟩ := outcome
  dsimp only at taken ⊢
  split
  · refine taken.trans (.of_slots (q.awaited?_modify _ fun _ => rfl) ?_)
    intro effect member
    change effect ∈ if _ = true then [] else [PunchEffect.report (.parentRegistered _)] at member
    split at member
    · cases member
    · rw [List.mem_singleton.mp member]
      trivial
  · exact taken.trans (q.lose_aside _ _)
  · exact taken

theorem onKeepAliveResponse_stepsAside (p : Puncher) (response : Message) (status : KeepAliveStatus) :
    p.StepsAside c (p.onKeepAliveResponse c response status).1 (p.onKeepAliveResponse c response status).2 := by
  have taken : p.StepsAside c (p.takeResponse response).2 [] := takeResponse_aside _ p response
  unfold onKeepAliveResponse
  generalize p.takeResponse response = outcome at taken ⊢
  obtain ⟨key?, q⟩ := outcome
  dsimp only at taken ⊢
  split
  · exact taken.trans (StepsAside.followedBy (q.lose_aside _ _) (fill_stepsAside _))
  · exact taken

theorem onExpire_stepsAside (p : Puncher) (remote : Socket) : p.StepsAside c (p.onExpire c remote).1 (p.onExpire c remote).2 := by
  unfold onExpire
  split
  · exact StepsAside.followedBy (p.lose_aside _ _) (fill_stepsAside _)
  · exact .refl c p

theorem refresh_stepsAside (p : Puncher) : p.StepsAside c (p.refresh c).1 (p.refresh c).2 :=
  StepsAside.followedBy (StepsAside.fold (fun _ q => q.request_stepsAside _ _) _ (.refl c p)) (fill_stepsAside _)

theorem leave_stepsAside (p : Puncher) (key : Socket) (parent : Address) :
    p.StepsAside c (p.leave c key parent).1 (p.leave c key parent).2 := by
  refine stepsAside_of_draw (.of_slots (awaited?_modify _ _ fun _ => rfl) ?_)
  intro effect member
  rcases List.mem_cons.mp member with rfl | report
  · exact rfl
  · rw [List.mem_singleton.mp report]
    trivial

theorem probe_stepsAside (p : Puncher) (target : Address) : p.StepsAside c (p.probe c target).1 (p.probe c target).2 := by
  refine stepsAside_of_draw ⟨rfl, Nat.le_refl _, ?_, ?_, id, ?_⟩
  · intro id spare
    rcases spare with probe | request
    · have probe : ((p.probes.insert (c.chance.ticket p.drawn) ⟨target, c.now⟩).get? id).isSome = true := probe
      rw [Table.get?_insert] at probe
      split at probe
      · rename_i own
        exact .inr own
      · exact .inl (.inl probe)
    · exact .inl (.inr request)
  · intro id _ old
    exact (Alarms.get?_arm ..).trans (if_neg old)
  · intro effect member
    rw [List.mem_singleton.mp member]
    exact rfl

/-- A probe is given up, with its alarm or without. -/
theorem erase_probe_aside {p : Puncher} {id : Ticket} {alarms : Alarms PunchAlarm} {effects : List PunchEffect}
    (kept : ∀ other, ¬ p.Spares other → alarms.table.get? other = p.alarms.table.get? other)
    (aside : ∀ effect ∈ effects, effect.IsAside fresh) : Aside fresh p { p with probes := p.probes.erase id, alarms } effects := by
  exact .of_fewer (p.probes.erase id) p.requests p.slots alarms (fun _ => Table.isSome_get?_of_erase) (fun _ known => known)
    (fun _ _ waits => waits) kept aside

/-- A request is given up and has left its slot; its alarm has rung. -/
theorem give_up_aside (fresh : Ticket → Prop) (p : Puncher) (id : Ticket) {slots : Table Socket Slot}
    (waits : ∀ key request, (slots.get? key).bind (·.pending) = some request → p.awaited? key = some request) :
    Aside fresh p { p with requests := p.requests.erase id, slots } [] := by
  exact .of_fewer p.probes (p.requests.erase id) slots p.alarms (fun _ known => known)
    (fun _ => Table.isSome_get?_of_erase) waits (fun _ _ => rfl) (by simp)

/-- A parent that does not answer is asked again, later by its growing timeout, or is lost; a timeout too long to
measure halts everything. -/
theorem onParentTimeout_stepsAside (p : Puncher) (id : Ticket) :
    p.StepsAside c (p.onParentTimeout c id).1 (p.onParentTimeout c id).2 ∨
      (∃ key request, p.awaited? key = some request ∧ request.retriesLeft ≠ 0 ∧ p.backoff.next? request.rto = none) ∧
        ∃ requests slots, p.onParentTimeout c id = ({ p with halted := true, requests, slots }, []) ∧
          ∀ other, ({ p with halted := true, requests, slots } : Puncher).Spares other → p.Spares other := by
  unfold onParentTimeout
  split
  · exact .inl (.refl c p)
  · rename_i key entered
    dsimp only
    split
    · exact .inl (give_up_aside _ p id fun _ _ waits => waits)
    · rename_i slot known
      split
      · exact .inl (give_up_aside _ p id fun _ _ waits => waits)
      · rename_i request pending
        have waits : p.awaited? key = some request := by rw [awaited?, known, Option.bind_some, pending]
        have given_up : ∀ fresh, Aside fresh p { p with
            requests := p.requests.erase id, slots := p.slots.insert key { slot with pending := none } } [] := by
          intro fresh
          refine give_up_aside fresh p id fun other later awaited => ?_
          rw [Table.get?_insert] at awaited
          split at awaited
          · cases awaited
          · exact awaited
        split
        · exact .inl ((given_up _).trans (lose_aside _ _ key))
        · rename_i some_left
          split
          · rename_i stuck
            refine .inr ⟨⟨key, request, waits, some_left, stuck⟩, _, _, rfl, fun other spare => ?_⟩
            exact ((given_up fun _ => False).spares other spare).resolve_right not_false
          · rename_i rto next
            refine .inl (stepsAside_of_draw ?_)
            unfold sendRequest
            simp only [draw, arm, Table.get?_insert, if_true, Table.insert_insert]
            refine place_aside (p.requests.erase id) p.alarms (fun _ => Table.isSome_get?_of_erase) (fun _ _ => rfl) rfl ?_ ?_
            · exact fun paced => (paced key request waits).next some_left next
            · exact rfl

end Puncher

end NatTraversal
