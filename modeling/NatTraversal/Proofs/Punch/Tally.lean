import Mathlib.Logic.Function.Basic
import NatTraversal.Proofs.Punch.Moves

namespace NatTraversal

/-- What waits for an alarm that rings once. -/
inductive Awaiter where
  | retry (key : PeerKey)
  | deadline (key : PeerKey)
  | expiry (key : PeerKey)
  | probe (id : Ticket)
  | request (parent : Socket)
deriving DecidableEq

def Awaiter.alarm : Awaiter → Ticket → PunchAlarm
  | .retry key, id => .retry key id
  | .deadline key, id => .deadline key id
  | .expiry key, id => .pathExpired key id
  | .probe _, id => .probeExpired id
  | .request _, id => .parentTimeout id

/-- The ticket of an alarm that rings once. -/
def PunchAlarm.ticket? : PunchAlarm → Option Ticket
  | .retry _ id => some id
  | .deadline _ id => some id
  | .probeExpired id => some id
  | .pathExpired _ id => some id
  | .parentTimeout id => some id
  | .refresh => none

@[simp] theorem Awaiter.ticket?_alarm (awaiter : Awaiter) (id : Ticket) : (awaiter.alarm id).ticket? = some id := by
  cases awaiter <;> rfl

namespace Alarms

/-- Whether an alarm that rings once is set under a ticket. -/
def Sets (alarms : Alarms PunchAlarm) (id : Ticket) (event : PunchAlarm) : Prop :=
  ∃ due rank, alarms.table.get? id = some ⟨due, rank, none, event⟩

variable {alarms : Alarms PunchAlarm} {id own : Ticket} {event : PunchAlarm}

/-- Whether all alarms that ring again and again are for the refresh of parents. -/
def Recurs (alarms : Alarms PunchAlarm) : Prop :=
  ∀ id alarm, alarms.table.get? id = some alarm → alarm.period ≠ none → alarm.event = .refresh

theorem Recurs.arm (recurs : alarms.Recurs) (own : Ticket) (due : Nat) (event : PunchAlarm) : (alarms.arm own due event).Recurs := by
  intro id alarm set again
  rw [get?_arm] at set
  split at set
  · cases set
    exact absurd rfl again
  · exact recurs id alarm set again

theorem Recurs.drop (recurs : alarms.Recurs) (own : Ticket) : (alarms.drop own).Recurs := by
  intro id alarm set again
  rw [get?_drop] at set
  split at set
  · cases set
  · exact recurs id alarm set again

theorem Recurs.armEvery (recurs : alarms.Recurs) (own : Ticket) (due period : Nat) : (alarms.armEvery own due period .refresh).Recurs := by
  intro id alarm set again
  rw [get?_armEvery] at set
  split at set
  · cases set
    rfl
  · exact recurs id alarm set again

theorem sets_arm {due : Nat} {set : PunchAlarm} :
    (alarms.arm own due set).Sets id event ↔ if id = own then event = set else alarms.Sets id event := by
  unfold Sets
  rw [get?_arm]
  split
  · constructor
    · rintro ⟨_, _, same⟩
      cases same
      rfl
    · rintro rfl
      exact ⟨due, alarms.armed, rfl⟩
  · exact Iff.rfl

theorem sets_armEvery {due period : Nat} {set : PunchAlarm} :
    (alarms.armEvery own due period set).Sets id event ↔ id ≠ own ∧ alarms.Sets id event := by
  unfold Sets
  rw [get?_armEvery]
  by_cases same : id = own
  · simp [same]
  · simp [same]

theorem sets_drop : (alarms.drop own).Sets id event ↔ id ≠ own ∧ alarms.Sets id event := by
  unfold Sets
  rw [get?_drop]
  by_cases same : id = own
  · simp [same]
  · simp [same]

end Alarms

/-- Whoever waits for an alarm has a ticket of its own, and no alarm is set for nobody. Each alarm that is waited for is set,
or it has rung and is still to be handled. -/
structure Tally (chance : Chance) (late : PunchAlarm → Prop) (count : Nat) (tickets : Awaiter → Option Ticket)
    (alarms : Alarms PunchAlarm) : Prop where
  drawn : ∀ awaiter id, tickets awaiter = some id → chance.Draws 0 count id
  single : ∀ one two id, tickets one = some id → tickets two = some id → one = two
  armed : ∀ id event, alarms.Sets id event → ∃ awaiter, tickets awaiter = some id ∧ awaiter.alarm id = event
  covered : ∀ awaiter id, tickets awaiter = some id → alarms.Sets id (awaiter.alarm id) ∨ late (awaiter.alarm id)
  late_drawn : ∀ event id, late event → event.ticket? = some id → chance.Draws 0 count id
  /-- An alarm that has rung is not set. -/
  rung : ∀ event id, late event → event.ticket? = some id → ∀ other, ¬ alarms.Sets id other
  recurs : alarms.Recurs

namespace Tally

variable {chance : Chance} {late : PunchAlarm → Prop} {count more n : Nat} {tickets : Awaiter → Option Ticket}
  {alarms later : Alarms PunchAlarm} {id : Ticket}

theorem mono (tally : Tally chance late count tickets alarms) (grows : count ≤ more) : Tally chance late more tickets alarms where
  drawn awaiter id held := (tally.drawn awaiter id held).mono (Nat.le_refl _) grows
  single := tally.single
  armed := tally.armed
  covered := tally.covered
  late_drawn event id rang own := (tally.late_drawn event id rang own).mono (Nat.le_refl _) grows
  rung := tally.rung
  recurs := tally.recurs

/-- Only what is set counts. -/
theorem congr (tally : Tally chance late count tickets alarms) (same : ∀ id event, later.Sets id event ↔ alarms.Sets id event)
    (recurs : later.Recurs) : Tally chance late count tickets later where
  drawn := tally.drawn
  single := tally.single
  armed id event set := tally.armed id event ((same id event).mp set)
  covered awaiter id held := (tally.covered awaiter id held).imp_left (same id _).mpr
  late_drawn := tally.late_drawn
  rung event id rang own other set := tally.rung event id rang own other ((same id other).mp set)
  recurs := recurs

theorem ne_ticket (distinct : chance.Distinct more) (first : count ≤ n) (last : n < more) (old : chance.Draws 0 count id) :
    id ≠ chance.ticket n := by
  rintro rfl
  obtain ⟨m, _, before, same⟩ := old
  have := distinct n m last (by omega) same
  omega

theorem of_update_none {awaiter other : Awaiter} {own : Ticket} (held : Function.update tickets awaiter none other = some own) :
    other ≠ awaiter ∧ tickets other = some own := by
  rw [Function.update_apply] at held
  split at held
  · cases held
  · rename_i apart
    exact ⟨apart, held⟩

/-- A ticket that is let go of takes its alarm with it. -/
theorem letGo (tally : Tally chance late count tickets alarms) (awaiter : Awaiter) (held : tickets awaiter = some id) :
    Tally chance late count (Function.update tickets awaiter none) (alarms.drop id) where
  drawn other own still := tally.drawn other own (of_update_none still).2
  single one two own first second := tally.single one two own (of_update_none first).2 (of_update_none second).2
  armed own event set := by
    obtain ⟨apart, set⟩ := Alarms.sets_drop.mp set
    obtain ⟨other, waits, same⟩ := tally.armed own event set
    refine ⟨other, ?_, same⟩
    rw [Function.update_of_ne]
    · exact waits
    · rintro rfl
      exact apart (Option.some.inj (waits.symm.trans held))
  covered other own still := by
    obtain ⟨apart, waits⟩ := of_update_none still
    refine (tally.covered other own waits).imp_left fun set => Alarms.sets_drop.mpr ⟨?_, set⟩
    rintro rfl
    exact apart (tally.single other awaiter own waits held)
  late_drawn := tally.late_drawn
  rung event own rang named other set := tally.rung event own rang named other (Alarms.sets_drop.mp set).2
  recurs := tally.recurs.drop id

/-- A ticket whose alarm has rung is let go of when the alarm is handled. -/
theorem handled (awaiter : Awaiter) (tally : Tally chance (fun event => event = awaiter.alarm id ∨ late event) count tickets alarms)
    (held : tickets awaiter = some id) : Tally chance late count (Function.update tickets awaiter none) alarms := by
  -- The alarm has rung, so that there is nothing left to drop.
  have unset := tally.rung (awaiter.alarm id) id (.inl rfl) (awaiter.ticket?_alarm id)
  have gone : ∀ own event, alarms.Sets own event ↔ (alarms.drop id).Sets own event := by
    intro own event
    rw [Alarms.sets_drop]
    refine ⟨fun set => ⟨?_, set⟩, And.right⟩
    rintro rfl
    exact unset event set
  have let_go := (tally.letGo awaiter held).congr gone tally.recurs
  exact {
    drawn := let_go.drawn
    single := let_go.single
    armed := let_go.armed
    covered := fun other own still => by
      rcases let_go.covered other own still with set | rang | rang
      · exact .inl set
      · have same := congrArg PunchAlarm.ticket? rang
        rw [Awaiter.ticket?_alarm, Awaiter.ticket?_alarm, Option.some_inj] at same
        subst same
        obtain ⟨apart, waits⟩ := of_update_none still
        exact absurd (tally.single other awaiter own waits held) apart
      · exact .inr rang
    late_drawn := fun event own rang => let_go.late_drawn event own (.inr rang)
    rung := fun event own rang => let_go.rung event own (.inr rang)
    recurs := let_go.recurs }

/-- An alarm that nobody waits for any more can be handled any time. -/
theorem stale {event : PunchAlarm} (tally : Tally chance (fun other => other = event ∨ late other) count tickets alarms)
    (nobody : ∀ awaiter id, tickets awaiter = some id → awaiter.alarm id ≠ event) : Tally chance late count tickets alarms where
  drawn := tally.drawn
  single := tally.single
  armed := tally.armed
  covered awaiter id held := by
    rcases tally.covered awaiter id held with set | rang | rang
    · exact .inl set
    · exact absurd rang (nobody awaiter id held)
    · exact .inr rang
  late_drawn other id rang := tally.late_drawn other id (.inr rang)
  rung other id rang := tally.rung other id (.inr rang)
  recurs := tally.recurs

/-- Whoever has a ticket once a fresh one is taken up has had it before, or has the fresh one. -/
theorem of_update_some (tally : Tally chance late count tickets alarms) (distinct : chance.Distinct more) (first : count ≤ n)
    (last : n < more) {awaiter other : Awaiter} {own : Ticket}
    (held : Function.update tickets awaiter (some (chance.ticket n)) other = some own) :
    other = awaiter ∧ own = chance.ticket n ∨ other ≠ awaiter ∧ tickets other = some own ∧ own ≠ chance.ticket n := by
  rw [Function.update_apply] at held
  split at held
  · rename_i same
    cases held
    exact .inl ⟨same, rfl⟩
  · rename_i apart
    exact .inr ⟨apart, held, ne_ticket distinct first last (tally.drawn other own held)⟩

/-- A fresh ticket is taken up, and its alarm is set. -/
theorem takeUp (tally : Tally chance late count tickets alarms) (awaiter : Awaiter) (free : tickets awaiter = none)
    (own : id = chance.ticket n) (distinct : chance.Distinct more) (first : count ≤ n) (last : n < more) (due : Nat) :
    Tally chance late more (Function.update tickets awaiter (some id)) (alarms.arm id due (awaiter.alarm id)) := by
  subst own
  exact {
    drawn := fun other own held => by
      rcases tally.of_update_some distinct first last held with ⟨_, rfl⟩ | ⟨_, old, _⟩
      · exact ⟨n, Nat.zero_le _, last, rfl⟩
      · exact (tally.drawn other own old).mono (Nat.le_refl _) (by omega)
    single := fun one two own held also => by
      rcases tally.of_update_some distinct first last held with ⟨rfl, new⟩ | ⟨_, old, known⟩
      · rcases tally.of_update_some distinct first last also with ⟨rfl, _⟩ | ⟨_, _, known⟩
        · rfl
        · exact absurd new known
      · rcases tally.of_update_some distinct first last also with ⟨_, new⟩ | ⟨_, older, _⟩
        · exact absurd new known
        · exact tally.single one two own old older
    armed := fun own event set => by
      rw [Alarms.sets_arm] at set
      split at set
      · rename_i same
        exact ⟨awaiter, by rw [Function.update_self, same], by rw [set, same]⟩
      · obtain ⟨other, waits, same⟩ := tally.armed own event set
        refine ⟨other, ?_, same⟩
        rw [Function.update_of_ne]
        · exact waits
        · rintro rfl
          cases free.symm.trans waits
    covered := fun other own held => by
      rw [Alarms.sets_arm]
      rcases tally.of_update_some distinct first last held with ⟨rfl, rfl⟩ | ⟨_, old, known⟩
      · rw [if_pos rfl]
        exact .inl rfl
      · rw [if_neg known]
        exact tally.covered other own old
    late_drawn := (tally.mono (by omega)).late_drawn
    rung := fun event own rang named other set => by
      rw [Alarms.sets_arm, if_neg (ne_ticket distinct first last (tally.late_drawn event own rang named))] at set
      exact tally.rung event own rang named other set
    recurs := tally.recurs.arm _ _ _ }

/-- An alarm that rings again and again is nobody's. -/
theorem armEvery (tally : Tally chance late count tickets alarms) (distinct : chance.Distinct more) (first : count ≤ n) (last : n < more)
    (due period : Nat) : Tally chance late more tickets (alarms.armEvery (chance.ticket n) due period .refresh) := by
  refine (tally.mono (by omega)).congr (fun own other => ?_) (tally.recurs.armEvery _ _ _)
  rw [Alarms.sets_armEvery]
  refine ⟨And.right, fun set => ⟨?_, set⟩⟩
  obtain ⟨awaiter, held, _⟩ := tally.armed own other set
  exact ne_ticket distinct first last (tally.drawn awaiter own held)

/-- An alarm rings that rings once. -/
theorem rings {event : PunchAlarm} (tally : Tally chance late count tickets alarms) (set : alarms.Sets id event) :
    Tally chance (fun other => late other ∨ other = event) count tickets (alarms.drop id) := by
  obtain ⟨awaiter, held, same⟩ := tally.armed id event set
  have own : event.ticket? = some id := same ▸ awaiter.ticket?_alarm id
  exact {
    drawn := tally.drawn
    single := tally.single
    armed := fun other rest still => tally.armed other rest (Alarms.sets_drop.mp still).2
    covered := fun other ticket waits => by
      by_cases mine : ticket = id
      · subst mine
        cases tally.single other awaiter ticket waits held
        exact .inr (.inr same)
      · exact (tally.covered other ticket waits).imp (fun still => Alarms.sets_drop.mpr ⟨mine, still⟩) .inl
    late_drawn := by
      rintro other ticket (rang | rfl) named
      · exact tally.late_drawn other ticket rang named
      · cases named.symm.trans own
        exact tally.drawn awaiter id held
    rung := by
      rintro other ticket (rang | rfl) named rest still
      · exact tally.rung other ticket rang named rest (Alarms.sets_drop.mp still).2
      · cases named.symm.trans own
        exact (Alarms.sets_drop.mp still).1 rfl
    recurs := tally.recurs.drop id }

/-- An alarm rings that rings again and again. -/
theorem recurring {due rank period again : Nat} {event : PunchAlarm} (tally : Tally chance late count tickets alarms)
    (set : alarms.table.get? id = some ⟨due, rank, some period, event⟩) :
    Tally chance (fun other => late other ∨ other = event) count tickets (alarms.armEvery id again period event) := by
  obtain rfl : event = .refresh := tally.recurs id _ set (by simp)
  -- Only what rings once is counted, so that setting it anew changes nothing.
  have same : ∀ own other, (alarms.armEvery id again period .refresh).Sets own other ↔ alarms.Sets own other := by
    intro own other
    rw [Alarms.sets_armEvery]
    refine ⟨And.right, fun still => ⟨?_, still⟩⟩
    rintro rfl
    obtain ⟨_, _, once⟩ := still
    cases set.symm.trans once
  have still := tally.congr same (tally.recurs.armEvery _ _ _)
  exact {
    drawn := still.drawn
    single := still.single
    armed := still.armed
    covered := fun awaiter ticket waits => (still.covered awaiter ticket waits).imp_right .inl
    late_drawn := by
      rintro other ticket (rang | rfl) named
      · exact still.late_drawn other ticket rang named
      · cases named
    rung := by
      rintro other ticket (rang | rfl) named
      · exact still.rung other ticket rang named
      · cases named
    recurs := still.recurs }

end Tally

namespace Puncher

/-- The ticket of the alarm that is waited for. -/
def tickets (p : Puncher) : Awaiter → Option Ticket
  | .retry key => (p.handshakes.get? key).map (·.retryId)
  | .deadline key => (p.handshakes.get? key).map (·.deadlineId)
  | .expiry key => (p.paths.get? key).map (·.expiryId)
  | .probe id => (p.probes.get? id).map fun _ => id
  | .request parent => (p.awaited? parent).map (·.id)

/-- Whether a puncher has kept account of its alarms, where some have rung and are still to be handled. -/
structure Watched (chance : Chance) (late : PunchAlarm → Prop) (p : Puncher) : Prop where
  tally : Tally chance late p.drawn p.tickets p.alarms
  entered : ∀ id parent, p.requests.get? id = some parent ↔ p.tickets (.request parent) = some id

section

variable (p : Puncher) (key : PeerKey)

theorem tickets_insert_handshake (hs : Handshake) : ({ p with handshakes := p.handshakes.insert key hs } : Puncher).tickets =
    Function.update (Function.update p.tickets (.retry key) (some hs.retryId)) (.deadline key) (some hs.deadlineId) := by
  funext awaiter
  rw [Function.update_apply, Function.update_apply]
  cases awaiter with
  | retry other => by_cases same : other = key <;> simp [tickets, Table.get?_insert, same]
  | deadline other => by_cases same : other = key <;> simp [tickets, Table.get?_insert, same]
  | _ => simp [tickets, awaited?]

theorem tickets_erase_handshake : ({ p with handshakes := p.handshakes.erase key } : Puncher).tickets =
    Function.update (Function.update p.tickets (.retry key) none) (.deadline key) none := by
  funext awaiter
  rw [Function.update_apply, Function.update_apply]
  cases awaiter with
  | retry other => by_cases same : other = key <;> simp [tickets, Table.get?_erase, same]
  | deadline other => by_cases same : other = key <;> simp [tickets, Table.get?_erase, same]
  | _ => simp [tickets, awaited?]

theorem tickets_insert_path (cached : CachedPath) : ({ p with paths := p.paths.insert key cached } : Puncher).tickets =
    Function.update p.tickets (.expiry key) (some cached.expiryId) := by
  funext awaiter
  rw [Function.update_apply]
  cases awaiter with
  | expiry other => by_cases same : other = key <;> simp [tickets, Table.get?_insert, same]
  | _ => simp [tickets, awaited?]

theorem tickets_erase_path : ({ p with paths := p.paths.erase key } : Puncher).tickets =
    Function.update p.tickets (.expiry key) none := by
  funext awaiter
  rw [Function.update_apply]
  cases awaiter with
  | expiry other => by_cases same : other = key <;> simp [tickets, Table.get?_erase, same]
  | _ => simp [tickets, awaited?]

theorem tickets_insert_probe (id : Ticket) (probe : Probe) : ({ p with probes := p.probes.insert id probe } : Puncher).tickets =
    Function.update p.tickets (.probe id) (some id) := by
  funext awaiter
  rw [Function.update_apply]
  cases awaiter with
  | probe other => by_cases same : other = id <;> simp [tickets, Table.get?_insert, same]
  | _ => simp [tickets, awaited?]

theorem tickets_erase_probe (id : Ticket) : ({ p with probes := p.probes.erase id } : Puncher).tickets =
    Function.update p.tickets (.probe id) none := by
  funext awaiter
  rw [Function.update_apply]
  cases awaiter with
  | probe other => by_cases same : other = id <;> simp [tickets, Table.get?_erase, same]
  | _ => simp [tickets, awaited?]

/-- What is waited for of one parent at most changes with its slot. -/
theorem tickets_slots {slots : Table Socket Slot} (parent : Socket) (pending : Option ParentRequest)
    (after : ∀ other, (slots.get? other).bind (·.pending) = if other = parent then pending else p.awaited? other) :
    ({ p with slots } : Puncher).tickets = Function.update p.tickets (.request parent) (pending.map (·.id)) := by
  funext awaiter
  rw [Function.update_apply]
  cases awaiter with
  | request other =>
    have now : ({ p with slots } : Puncher).awaited? other = if other = parent then pending else p.awaited? other := after other
    simp only [tickets, now, Awaiter.request.injEq]
    split <;> rfl
  | _ => simp [tickets]

theorem tickets_of_slots {slots : Table Socket Slot} (same : ∀ other, (slots.get? other).bind (·.pending) = p.awaited? other) :
    ({ p with slots } : Puncher).tickets = p.tickets := by
  funext awaiter
  cases awaiter with
  | request other => exact congrArg (Option.map _) (same other)
  | _ => rfl

theorem tickets_insert_slot (parent : Socket) (slot : Slot) : ({ p with slots := p.slots.insert parent slot } : Puncher).tickets =
    Function.update p.tickets (.request parent) (slot.pending.map (·.id)) := by
  refine p.tickets_slots parent slot.pending fun other => ?_
  rw [Table.get?_insert]
  split <;> rfl

end

end Puncher

end NatTraversal
