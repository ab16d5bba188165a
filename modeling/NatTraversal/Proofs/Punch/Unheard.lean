import NatTraversal.Proofs.Punch.Lifetime
import NatTraversal.Proofs.Punch.Requests
import NatTraversal.Proofs.Ringing

namespace NatTraversal

theorem Backoff.waited_whole (backoff : Backoff) (count : Nat) : Time.Whole (backoff.waited count) := by
  induction count with
  | zero => exact Time.ceilMillis_zero
  | succ count ih => exact ih.add (Time.whole_ofMillis _)

namespace Puncher

open Relation

section

variable {c : Surroundings} {input : PunchInput} {p q : Puncher} {effects : List PunchEffect}

/-- A puncher that goes on: whatever waits has come to its timeout by its retries alone, and no timeout is too long. -/
structure Regular (p : Puncher) : Prop where
  measured : p.backoff.Measured
  going : p.halted = false
  paced : p.Paced
  handshakes : ∀ key hs, p.handshakes.get? key = some hs → p.backoff.Schedules hs.rto hs.retriesLeft

theorem Regular.with_alarms (regular : p.Regular) (alarms : Alarms PunchAlarm) : ({ p with alarms } : Puncher).Regular :=
  ⟨regular.measured, regular.going, regular.paced, regular.handshakes⟩

theorem Move.stays (move : Move c input p q effects) (regular : p.Regular) : q.halted = false := by
  have going := regular.going
  cases move with
  | aside aside asleep =>
    rw [aside.frame]
    exact going
  | stalls frame spares stuck =>
    exfalso
    rcases stuck with ⟨key, hs, found, some_left, stuck⟩ | ⟨key, request, waits, some_left, stuck⟩
    · exact (regular.handshakes key hs found).next_isSome regular.measured some_left stuck
    · exact (regular.paced key request waits).next_isSome regular.measured some_left stuck
  | _ => exact going

theorem Move.regular (move : Move c input p q effects) (regular : p.Regular) : q.Regular := by
  have going := move.stays regular
  have backoff := move.constant.2.1
  refine ⟨backoff ▸ regular.measured, going, move.paced regular.paced going, fun key later found => ?_⟩
  rw [backoff]
  cases move.origin found with
  | @edited hs later known edited asleep =>
    rw [edited.rto, edited.retriesLeft]
    exact regular.handshakes key hs known
  | @retried hs rto known given some_left early next drawn alarms =>
    exact (regular.handshakes key hs known).next some_left next
  | opened idle own same next =>
    subst same
    exact p.backoff.schedules_first

theorem Moves.regular (moves : Moves c input p q effects) (regular : p.Regular) : q.Regular := by
  induction moves with
  | refl => exact regular
  | step before move ih => exact move.regular ih

theorem regular_ofConfig {config : Config} (measured : config.punch.backoff.Measured) (me : Identity) :
    (ofConfig config me).Regular where
  measured := measured
  going := rfl
  paced _ _ waits := by cases waits
  handshakes _ _ found := by cases found

theorem Run.regular {chance : Chance} {log : List Deed} {start : Puncher} (run : Run chance start log p) (regular : start.Regular) :
    p.Regular := by
  induction run with
  | start => exact regular
  | step before same alarms input ih => exact (react_moves input).regular (ih.with_alarms alarms)

end

section

variable {c : Surroundings} {p : Puncher} {key : PeerKey} {hs : Handshake}

theorem retry_of_stuck (found : p.handshakes.get? key = some hs) (some_left : hs.retriesLeft ≠ 0) (early : c.now < hs.deadline)
    (stuck : p.backoff.next? hs.rto = none) : (p.retry c key hs.retryId).1.halted = true := by
  have going : ¬ (hs.retriesLeft = 0 ∨ c.now ≥ hs.deadline) := not_or.mpr ⟨some_left, Nat.not_le.mpr early⟩
  simp only [retry, found, ne_eq, not_true_eq_false, if_false, if_neg going, stuck]

/-- The requests of a handshake have been sent again, and wait for the next timeout. -/
def renewed (c : Surroundings) (p : Puncher) (key : PeerKey) (hs : Handshake) (rto : Nat) : Puncher :=
  { p with
    handshakes := p.handshakes.insert key (attempted (p.retried c hs rto))
    alarms := p.alarms.arm (c.chance.ticket p.drawn) (c.now + rto) (.retry key (c.chance.ticket p.drawn))
    drawn := p.drawn + 1 }

theorem retry_of_next {rto : Nat} (found : p.handshakes.get? key = some hs) (some_left : hs.retriesLeft ≠ 0)
    (early : c.now < hs.deadline) (next : p.backoff.next? hs.rto = some rto) :
    (p.retry c key hs.retryId).1 = p.renewed c key hs rto := by
  have going : ¬ (hs.retriesLeft = 0 ∨ c.now ≥ hs.deadline) := not_or.mpr ⟨some_left, Nat.not_le.mpr early⟩
  let ready : Puncher := { p with
    handshakes := p.handshakes.insert key (p.retried c hs rto)
    alarms := p.alarms.arm (c.chance.ticket p.drawn) (c.now + rto) (.retry key (c.chance.ticket p.drawn))
    drawn := p.drawn + 1 }
  have entered : ready.handshakes.get? key = some (p.retried c hs rto) := by rw [Table.get?_insert, if_pos rfl]
  have same : p.retry c key hs.retryId = ready.sendAttempt c key := by
    simp only [retry, found, ne_eq, not_true_eq_false, if_false, if_neg going, next]
    rfl
  rw [same, sendAttempt_eq entered]
  simp only [keep, ready, renewed, Table.insert_insert]

end

/-- A node that has called one other and heard nothing: its handshake has been tried so often, and of the alarms that are
set its retry rings first. -/
structure Unheard (backoff : Backoff) (limit count : Nat) (key : PeerKey) (p : Puncher) (hs : Handshake) : Prop where
  same : p.backoff = backoff
  going : p.halted = false
  found : p.handshakes.get? key = some hs
  timeout : backoff.timeout? count = some hs.rto
  total : count + hs.retriesLeft = backoff.attempts.toNat - 1
  deadline : hs.deadline = limit
  retry : ∃ due rank, p.alarms.table.get? hs.retryId = some ⟨due, rank, none, .retry key hs.retryId⟩ ∧
    Time.ceilMillis due = backoff.waited (count + 1)
  others : ∀ id alarm time, p.alarms.table.get? id = some alarm → alarm.rings? = some time → id = hs.retryId ∨ limit ≤ time

section

variable {backoff : Backoff} {limit count : Nat} {key : PeerKey} {p : Puncher} {hs : Handshake}

/-- Time passes until the retry rings. -/
theorem Unheard.rings (unheard : Unheard backoff limit count key p hs) (early : backoff.waited (count + 1) < limit)
    (chance : Chance) (roster : Roster) : ReflTransGen (Tick chance) (backoff.waited count, p)
      (backoff.waited (count + 1), (({ p with alarms := p.alarms.drop hs.retryId } : Puncher).retry
        ⟨backoff.waited (count + 1), 0, roster, chance⟩ key hs.retryId).1) := by
  obtain ⟨due, rank, set, instant⟩ := unheard.retry
  have later : backoff.waited (count + 1) =
      backoff.waited count + Time.ofMillis ((hs.rto + (Time.millisecond - 1)) / Time.millisecond) := by
    rw [Backoff.waited, unheard.timeout, Option.getD_some]
    rfl
  have soonest : ∀ id alarm time, p.alarms.table.get? id = some alarm → alarm.rings? = some time →
      backoff.waited (count + 1) ≤ time := by
    intro id alarm time known rings
    rcases unheard.others id alarm time known rings with rfl | after
    · cases set.symm.trans known
      exact Nat.le_of_eq (instant.symm.trans (Alarm.rings?_eq_some.mp rings).2.symm)
    · exact Nat.le_of_lt (Nat.lt_of_lt_of_le early after)
  have waits : Tick chance (backoff.waited count, p) (backoff.waited (count + 1), p) := by
    rw [later]
    exact .passes _ fun next soon => later ▸ Alarms.le_of_next? soon soonest
  have rings : Alarm.rings? ⟨due, rank, none, PunchAlarm.retry key hs.retryId⟩ = some (backoff.waited (count + 1)) :=
    Alarm.rings?_eq_some.mpr ⟨fun again => (by cases again), instant.symm⟩
  have alone : ∀ id alarm time, p.alarms.table.get? id = some alarm → alarm.rings? = some time →
      id = hs.retryId ∨ backoff.waited (count + 1) < time := by
    intro id alarm time known rings
    exact (unheard.others id alarm time known rings).imp_right (Nat.lt_of_lt_of_le early)
  have rung : p.alarms.ring? (backoff.waited (count + 1)) = some (.retry key hs.retryId, p.alarms.drop hs.retryId) :=
    Alarms.ring?_of_alone set rings (Nat.le_refl _) alone
  refine .head waits (.single (.rings (c := ⟨backoff.waited (count + 1), 0, roster, chance⟩) rfl ?_))
  have retries : ({ p with alarms := p.alarms.drop hs.retryId } : Puncher).onAlarm
      ⟨backoff.waited (count + 1), 0, roster, chance⟩ (.retry key hs.retryId) =
        ({ p with alarms := p.alarms.drop hs.retryId } : Puncher).retry ⟨backoff.waited (count + 1), 0, roster, chance⟩ key
          hs.retryId := if_neg (Bool.eq_false_iff.mp unheard.going)
  rw [ring?, rung, Option.map_some]
  exact congrArg some retries

theorem Unheard.again (unheard : Unheard backoff limit count key p hs) (some_left : hs.retriesLeft ≠ 0) {rto : Nat}
    (next : backoff.next? hs.rto = some rto) {c : Surroundings} (now : c.now = backoff.waited (count + 1)) :
    Unheard backoff limit (count + 1) key (renewed c { p with alarms := p.alarms.drop hs.retryId } key hs rto)
      (attempted (p.retried c hs rto)) where
  same := unheard.same
  going := unheard.going
  found := by
    rw [renewed, Table.get?_insert, if_pos rfl]
    rfl
  timeout := by
    rw [Backoff.timeout?, unheard.timeout, Option.bind_some, next]
    rfl
  total := by
    have total := unheard.total
    change count + 1 + (hs.retriesLeft - 1) = _
    omega
  deadline := unheard.deadline
  retry := by
    refine ⟨c.now + rto, (p.alarms.drop hs.retryId).armed, (Alarms.get?_arm ..).trans (if_pos rfl), ?_⟩
    rw [now, (backoff.waited_whole (count + 1)).ceilMillis_add, Backoff.waited.eq_def _ (count + 2)]
    simp only [Backoff.timeout?, unheard.timeout, Option.bind_some, next, Option.getD_some]
  others id alarm time known rings := by
    rw [renewed, Alarms.get?_arm] at known
    split at known
    · rename_i own
      exact .inl own
    · rw [Alarms.get?_drop] at known
      split at known
      · cases known
      · rename_i apart
        exact .inr ((unheard.others id alarm time known rings).resolve_left apart)

/-- A retry ends the puncher, or goes on as before. -/
theorem Unheard.goes_on (unheard : Unheard backoff limit count key p hs) (early : backoff.waited (count + 1) < limit)
    (some_left : hs.retriesLeft ≠ 0) (chance : Chance) :
    ∃ q, ReflTransGen (Tick chance) (backoff.waited count, p) (backoff.waited (count + 1), q) ∧
      (q.halted = true ∨ ∃ later, Unheard backoff limit (count + 1) key q later) := by
  refine ⟨_, unheard.rings early chance (.empty 0), ?_⟩
  have in_time : backoff.waited (count + 1) < hs.deadline := unheard.deadline ▸ early
  cases next : backoff.next? hs.rto with
  | none => exact .inl (retry_of_stuck unheard.found some_left in_time ((congrArg (·.next? hs.rto) unheard.same).trans next))
  | some rto =>
    have again := retry_of_next (c := ⟨backoff.waited (count + 1), 0, .empty 0, chance⟩)
      (p := { p with alarms := p.alarms.drop hs.retryId }) unheard.found some_left in_time
      ((congrArg (·.next? hs.rto) unheard.same).trans next)
    rw [again]
    exact .inr ⟨_, unheard.again some_left next rfl⟩

/-- A handshake that comes to a timeout too long to measure before its deadline ends the puncher. -/
theorem Unheard.halts (unheard : Unheard backoff limit count key p hs) {last : Nat} (behind : count < last)
    (within : last < backoff.attempts.toNat) (stuck : backoff.timeout? last = none) (early : backoff.waited last < limit)
    (chance : Chance) : ∃ now q, ReflTransGen (Tick chance) (backoff.waited count, p) (now, q) ∧ q.halted = true := by
  -- Each retry that goes on brings the fatal one nearer, and the clock stays short of the deadline as `waited` only grows.
  induction left : last - count generalizing count p hs with
  | zero => omega
  | succ left ih =>
    have total := unheard.total
    have soon : backoff.waited (count + 1) < limit := Nat.lt_of_le_of_lt (backoff.waited_le_waited behind) early
    obtain ⟨q, steps, halted | ⟨later, unheard⟩⟩ := unheard.goes_on soon (by omega) chance
    · exact ⟨_, q, steps, halted⟩
    · have again : count + 1 < last := by
        refine Nat.lt_of_le_of_ne behind fun same => ?_
        subst same
        cases stuck.symm.trans unheard.timeout
      obtain ⟨now, last, more, halted⟩ := ih unheard again (by omega)
      exact ⟨now, last, steps.trans more, halted⟩

end

/-- A handshake that a node begins at once has not been heard of yet. -/
theorem begun_unheard {c : Surroundings} {p : Puncher} {hs : Handshake} (going : p.halted = false)
    (silent : p.alarms.table = .empty) (now : c.now = 0) (first : hs.rto = p.backoff.first) (retries : hs.retriesLeft = p.retries)
    (whole : Time.Whole hs.deadline) (apart : hs.retryId ≠ hs.deadlineId) :
    Unheard p.backoff hs.deadline 0 hs.target.key (p.begun c hs) (attempted hs) where
  same := rfl
  going := going
  found := by rw [begun, Table.get?_insert, if_pos rfl]
  timeout := congrArg some first.symm
  total := by
    rw [Nat.zero_add]
    exact retries
  deadline := rfl
  retry := by
    refine ⟨c.now + hs.rto, p.alarms.armed, ?_, ?_⟩
    · show ((p.alarms.arm _ _ _).arm _ _ _).table.get? hs.retryId = _
      rw [Alarms.get?_arm, if_neg apart, Alarms.get?_arm, if_pos rfl]
      rfl
    · rw [now, first, Nat.zero_add, Backoff.waited, Backoff.waited, Nat.zero_add]
      rfl
  others id alarm time known rings := by
    change ((p.alarms.arm _ _ _).arm _ _ _).table.get? id = _ at known
    rw [Alarms.get?_arm] at known
    split at known
    · cases known
      exact .inr (Nat.le_of_eq (whole.symm.trans (Alarm.rings?_eq_some.mp rings).2.symm))
    · rw [Alarms.get?_arm, silent] at known
      split at known
      · rename_i own
        exact .inl own
      · cases known

theorem calls_unheard (config : Config) :
    ∃ hs, Unheard config.punch.backoff (Time.ofMillis config.courier.handshakeLimit.toNat) 0 called.key
      ((ofConfig config caller).handle calling (.connect called (.ok []))).1 hs := by
  let hs := (ofConfig config caller).opening calling called called.address.socket (ofConfig config caller).mainPort [] none false
  have step : ((ofConfig config caller).handle calling (.connect called (.ok []))).1 = (ofConfig config caller).begun calling hs :=
    congrArg Prod.fst (begin_eq (ofConfig config caller) calling called called.address.socket _ [] none false)
  have whole : Time.Whole hs.deadline := (Time.whole_ofMillis 0).add (Time.whole_ofMillis _)
  have apart : hs.retryId ≠ hs.deadlineId := by
    show (Chance.counting 0).ticket 1 ≠ (Chance.counting 0).ticket 2
    decide
  have unheard := begun_unheard (c := calling) (p := ofConfig config caller) rfl rfl rfl rfl rfl whole apart
  rw [step]
  have limit : hs.deadline = Time.ofMillis config.courier.handshakeLimit.toNat := Nat.zero_add _
  rw [limit] at unheard
  exact ⟨_, unheard⟩

end Puncher

end NatTraversal
