import Mathlib.Logic.Relation
import NatTraversal.Proofs.Punch.Quiescence
import NatTraversal.Proofs.Punch.Tickets

namespace NatTraversal

namespace Backoff

/-- How long the first timeouts last in all, each of them until a whole millisecond. -/
def waited (backoff : Backoff) : Nat → Nat
  | 0 => 0
  | count + 1 => backoff.waited count + Time.ceilMillis ((backoff.timeout? count).getD 0)

theorem waited_le_waited (backoff : Backoff) {fewer more : Nat} (less : fewer ≤ more) :
    backoff.waited fewer ≤ backoff.waited more := by
  induction less with
  | refl => exact Nat.le_refl _
  | step _ ih => exact Nat.le_trans ih (Nat.le_add_right ..)

/-- At least one transmission, and no timeout that is too long to measure. -/
structure Measured (backoff : Backoff) : Prop where
  some_attempt : 1 ≤ backoff.attempts.toNat
  each : ∀ count, count < backoff.attempts.toNat → (backoff.timeout? count).isSome = true

theorem Schedules.next_isSome {backoff : Backoff} {rto left : Nat} (measured : backoff.Measured)
    (schedules : backoff.Schedules rto left) (some_left : left ≠ 0) : backoff.next? rto ≠ none := by
  obtain ⟨count, timeout, total⟩ := schedules
  have later := measured.each (count + 1) (by omega)
  rw [timeout?, timeout, Option.bind_some] at later
  exact Option.isSome_iff_ne_none.mp later

end Backoff

/-- Whether an alarm of a ticket is set, for a purpose and a time. -/
def Alarms.Rings {ε : Type} (alarms : Alarms ε) (id : Ticket) (event : ε) (time : Nat) : Prop :=
  ∃ alarm, alarms.table.get? id = some alarm ∧ alarm.event = event ∧ alarm.rings? = some time

theorem Alarms.rings_of_eq {ε : Type} {alarms later : Alarms ε} {id : Ticket} {event : ε} {time : Nat}
    (same : later.table.get? id = alarms.table.get? id) (rings : alarms.Rings id event time) : later.Rings id event time := by
  obtain ⟨alarm, set, rest⟩ := rings
  exact ⟨alarm, same.trans set, rest⟩

theorem Alarms.rings_arm {ε : Type} (alarms : Alarms ε) (id : Ticket) (due : Nat) (event : ε) :
    (alarms.arm id due event).Rings id event (Time.ceilMillis due) :=
  ⟨_, (get?_arm ..).trans (if_pos rfl), rfl, rfl⟩

/-- The alarm that is an input, if it is one. -/
def PunchInput.rung? : PunchInput → Option PunchAlarm
  | .alarm event => some event
  | .command _ => none

def Stage.rank : Stage → Nat
  | .registered => 0
  | .connectRequested => 1
  | .holeOpen => 2
  | .verified => 3

/-- Whether a handshake is what another has become. -/
structure Handshake.Follows (hs later : Handshake) : Prop where
  pingId : later.pingId = hs.pingId
  deadline : later.deadline = hs.deadline
  stage : hs.stage ≠ .verified → later.stage ≠ .verified ∧ hs.stage.rank ≤ later.stage.rank

namespace Handshake.Follows

variable {hs later last : Handshake}

theorem refl (hs : Handshake) : hs.Follows hs := ⟨rfl, rfl, fun going => ⟨going, Nat.le_refl _⟩⟩

theorem trans (first : hs.Follows later) (second : later.Follows last) : hs.Follows last where
  pingId := second.pingId.trans first.pingId
  deadline := second.deadline.trans first.deadline
  stage going := by
    obtain ⟨still, before⟩ := first.stage going
    obtain ⟨open_ended, after⟩ := second.stage still
    exact ⟨open_ended, Nat.le_trans before after⟩

theorem of_edited (edited : hs.Edited later) : hs.Follows later where
  pingId := edited.pingId
  deadline := edited.deadline
  stage going := by
    rcases edited.stage with same | ⟨before, after⟩ | opened
    · rw [same]
      exact ⟨going, Nat.le_refl _⟩
    · simp [before, after, Stage.rank]
    · cases stage : hs.stage <;> simp_all [Stage.rank]

end Handshake.Follows

namespace Puncher

/-- A handshake that its retries and its deadline end in time, where an alarm may just have rung. -/
structure Timely (now : Nat) (rung : Option PunchAlarm) (p : Puncher) (key : PeerKey) (hs : Handshake) : Prop where
  timeout : p.backoff.timeout? hs.attempt = some hs.rto
  total : hs.attempt + hs.retriesLeft = p.retries
  stage : hs.stage ≠ .verified
  deadline : rung = some (.deadline key hs.deadlineId) ∨ p.alarms.Rings hs.deadlineId (.deadline key hs.deadlineId) hs.deadline
  /-- The handshake has begun as long before its deadline as handshakes may last. -/
  retry : ∃ time, now ≤ time ∧ time + p.handshakeLimit ≤ hs.deadline + p.backoff.waited (hs.attempt + 1) ∧
    (rung = some (.retry key hs.retryId) ∨ p.alarms.Rings hs.retryId (.retry key hs.retryId) time)

structure Punctual (chance : Chance) (now : Nat) (rung : Option PunchAlarm) (p : Puncher) : Prop where
  measured : p.backoff.Measured
  limit : Time.Whole p.handshakeLimit
  going : p.halted = false
  paced : p.Paced
  ticketed : p.Ticketed chance
  timely : ∀ key hs, p.handshakes.get? key = some hs → p.Timely now rung key hs

section

variable {c : Surroundings} {input : PunchInput} {p q : Puncher} {effects : List PunchEffect} {chance : Chance} {now : Nat}

theorem Timely.weaken {key : PeerKey} {hs : Handshake} (timely : p.Timely now none key hs) (rung : Option PunchAlarm) :
    p.Timely now rung key hs where
  timeout := timely.timeout
  total := timely.total
  stage := timely.stage
  deadline := .inr (timely.deadline.resolve_left (by simp))
  retry := by
    obtain ⟨time, later, bound, rings⟩ := timely.retry
    exact ⟨time, later, bound, .inr (rings.resolve_left (by simp))⟩

theorem Punctual.weaken (punctual : p.Punctual chance now none) (rung : Option PunchAlarm) : p.Punctual chance now rung :=
  { punctual with timely := fun key hs found => (punctual.timely key hs found).weaken rung }

/-- A move that is punctual does not stall. -/
theorem Move.going (move : Move c input p q effects) (punctual : p.Punctual chance now input.rung?) : q.halted = false := by
  have going := punctual.going
  cases move with
  | aside aside asleep => rw [aside.frame]; exact going
  | stalls frame spares stuck =>
    exfalso
    rcases stuck with ⟨key, hs, found, some_left, stuck⟩ | ⟨key, request, waits, some_left, stuck⟩
    · have timely := punctual.timely key hs found
      have schedules : p.backoff.Schedules hs.rto hs.retriesLeft := ⟨hs.attempt, timely.timeout, timely.total⟩
      exact schedules.next_isSome punctual.measured some_left stuck
    · exact (punctual.paced key request waits).next_isSome punctual.measured some_left stuck
  | _ => exact going

theorem Move.paced (move : Move c input p q effects) (paced : p.Paced) (going : q.halted = false) : q.Paced := by
  cases move with
  | aside aside asleep => exact aside.paced paced
  | stalls frame spares stuck =>
    rw [frame] at going
    cases going
  | _ => exact paced

theorem rung_eq_some {alarm : PunchAlarm} : input.rung? = some alarm ↔ input = .alarm alarm := by
  cases input <;> simp [PunchInput.rung?]

/-- Alarms that go on counting for a handshake. -/
theorem Timely.still {key : PeerKey} {hs later : Handshake} (timely : p.Timely now input.rung? key hs) (asleep : ¬ input.Wakes key hs)
    (edited : hs.Edited later) (backoff : q.backoff = p.backoff) (limit : q.handshakeLimit = p.handshakeLimit)
    (retry : q.alarms.table.get? hs.retryId = p.alarms.table.get? hs.retryId)
    (deadline : q.alarms.table.get? hs.deadlineId = p.alarms.table.get? hs.deadlineId) : q.Timely now none key later := by
  obtain ⟨time, after, bound, rings⟩ := timely.retry
  have rings := rings.resolve_left fun rung => asleep (.inl (rung_eq_some.mp rung))
  have ends := timely.deadline.resolve_left fun rung => asleep (.inr (rung_eq_some.mp rung))
  refine ⟨?_, ?_, ?_, .inr ?_, time, after, ?_, .inr ?_⟩
  · rw [backoff, edited.attempt, edited.rto]
    exact timely.timeout
  · rw [edited.attempt, edited.retriesLeft, retries, backoff]
    exact timely.total
  · rcases edited.stage with same | ⟨_, asked⟩ | opened
    · rw [same]
      exact timely.stage
    · simp [asked]
    · simp [opened]
  · rw [edited.deadlineId, edited.deadline]
    exact Alarms.rings_of_eq deadline ends
  · rw [backoff, limit, edited.deadline, edited.attempt]
    exact bound
  · rw [edited.retryId]
    exact Alarms.rings_of_eq retry rings

theorem stage_attempted {hs : Handshake} (going : hs.stage ≠ .verified) : (attempted hs).stage ≠ .verified :=
  ((Handshake.Follows.of_edited (Handshake.Edited.refl hs).attempted).stage going).1

/-- A retry has rung in time, and its handshake goes on. -/
theorem Timely.retried {key : PeerKey} {hs : Handshake} {rto : Nat} (timely : p.Timely c.now input.rung? key hs)
    (given : input = .alarm (.retry key hs.retryId)) (some_left : hs.retriesLeft ≠ 0) (next : p.backoff.next? hs.rto = some rto)
    (whole : Time.Whole c.now) (backoff : q.backoff = p.backoff) (limit : q.handshakeLimit = p.handshakeLimit)
    (alarms : q.alarms = p.alarms.arm (c.chance.ticket p.drawn) (c.now + rto) (.retry key (c.chance.ticket p.drawn)))
    (deadline : q.alarms.table.get? hs.deadlineId = p.alarms.table.get? hs.deadlineId) :
    q.Timely c.now none key (attempted (p.retried c hs rto)) := by
  have timeout : p.backoff.timeout? (hs.attempt + 1) = some rto := by
    rw [Backoff.timeout?, timely.timeout, Option.bind_some, next]
  have total := timely.total
  obtain ⟨time, after, bound, _⟩ := timely.retry
  have ends : p.alarms.Rings hs.deadlineId (.deadline key hs.deadlineId) hs.deadline := by
    refine timely.deadline.resolve_left fun rung => ?_
    cases given.symm.trans (rung_eq_some.mp rung)
  refine ⟨backoff ▸ timeout, ?_, ?_, .inr (Alarms.rings_of_eq deadline ends), c.now + Time.ceilMillis rto, Nat.le_add_right .., ?_, .inr ?_⟩
  · simp only [attempted, Puncher.retried, retries, backoff] at total ⊢
    omega
  · exact stage_attempted timely.stage
  · simp only [attempted, Puncher.retried, backoff, limit]
    rw [Backoff.waited, timeout, Option.getD_some]
    omega
  · rw [← whole.ceilMillis_add, alarms]
    exact Alarms.rings_arm ..

/-- A handshake that is begun has its alarms set. -/
theorem Timely.begun {hs : Handshake} {target : Contact} {remote : Socket} {punchPort : UInt16} {allocated : List UInt16}
    {parent : Option Address} {responder : Bool} (same : hs = p.opening c target remote punchPort allocated parent responder)
    (distinct : c.chance.Distinct (p.begun c hs).drawn) (whole : Time.Whole c.now) (limit : Time.Whole p.handshakeLimit) :
    (p.begun c hs).Timely c.now none target.key (attempted hs) := by
  subst same
  have ids : c.chance.ticket (p.drawn + 1) ≠ c.chance.ticket (p.drawn + 2) := by
    intro same
    have drawn : (p.begun c (p.opening c target remote punchPort allocated parent responder)).drawn = p.drawn + 3 := rfl
    have := distinct _ _ (by omega) (by omega) same
    omega
  refine ⟨rfl, Nat.zero_add _, stage_attempted (by simp [opening]), .inr ?_, c.now + Time.ceilMillis p.backoff.first,
    Nat.le_add_right .., ?_, .inr ?_⟩
  · have rings := Alarms.rings_arm (p.alarms.arm (c.chance.ticket (p.drawn + 1)) (c.now + p.backoff.first)
      (.retry target.key (c.chance.ticket (p.drawn + 1)))) (c.chance.ticket (p.drawn + 2)) (c.now + p.handshakeLimit)
      (.deadline target.key (c.chance.ticket (p.drawn + 2)))
    rwa [whole.add limit] at rings
  · change c.now + Time.ceilMillis p.backoff.first + p.handshakeLimit ≤
      c.now + p.handshakeLimit + (0 + Time.ceilMillis p.backoff.first)
    omega
  · rw [← whole.ceilMillis_add]
    refine Alarms.rings_of_eq ?_ (Alarms.rings_arm p.alarms _ _ _)
    exact (Alarms.get?_arm ..).trans (if_neg ids)

/-- Every move keeps the handshakes punctual. -/
theorem Move.punctual (move : Move c input p q effects) (punctual : p.Punctual c.chance c.now input.rung?)
    (distinct : c.chance.Distinct q.drawn) (whole : Time.Whole c.now) : q.Punctual c.chance c.now none := by
  obtain ⟨me, backoff, limit, enrollment⟩ := move.constant
  have going := move.going punctual
  have ticketed := punctual.ticketed.move move distinct
  refine ⟨backoff ▸ punctual.measured, limit ▸ punctual.limit, going, move.paced punctual.paced going, ticketed, ?_⟩
  intro key later found
  cases move.origin found with
  | @edited hs later known edited asleep =>
    have retry : p.Wears (.retry key) hs.retryId := ⟨hs, known, rfl⟩
    have deadline : p.Wears (.deadline key) hs.deadlineId := ⟨hs, known, rfl⟩
    refine (punctual.timely key hs known).still (asleep going) edited backoff limit ?_ ?_
    · exact move.alarm_kept punctual.ticketed distinct retry ⟨later, found, edited.retryId⟩ (by simp)
    · exact move.alarm_kept punctual.ticketed distinct deadline ⟨later, found, edited.deadlineId⟩ (by simp)
  | @retried hs rto known given some_left early next drawn alarms =>
    have deadline : p.Wears (.deadline key) hs.deadlineId := ⟨hs, known, rfl⟩
    refine (punctual.timely key hs known).retried given some_left next whole backoff limit alarms ?_
    exact move.alarm_kept punctual.ticketed distinct deadline ⟨_, found, rfl⟩ (by simp)
  | opened idle own same next =>
    subst own next
    exact Timely.begun same distinct whole punctual.limit

theorem Moves.punctual (moves : Moves c input p q effects) (punctual : p.Punctual c.chance c.now none)
    (distinct : c.chance.Distinct q.drawn) (whole : Time.Whole c.now) : q.Punctual c.chance c.now none := by
  induction moves with
  | refl => exact punctual
  | step before move ih =>
    have earlier := ih (distinct.mono move.drawn_le)
    exact move.punctual (earlier.weaken _) distinct whole

/-- A handshake's alarm either is the one that has rung or is still set. -/
theorem Rings.ring {alarms rest : Alarms PunchAlarm} {alarm event : PunchAlarm} {id : Ticket} {time : Nat}
    (rings : alarms.Rings id event time) (rung : alarms.ring? now = some (alarm, rest)) :
    some alarm = some event ∨ rest.Rings id event time := by
  obtain ⟨own, first, _, set, _, _, given, left⟩ := Alarms.ring?_eq_some rung
  obtain ⟨other, known, same, at_time⟩ := rings
  by_cases mine : id = own
  · subst mine
    cases set.symm.trans known
    exact .inl (by rw [given, same])
  · exact .inr ⟨other, by rw [left, Alarms.get?_rung_of_ne mine]; exact known, same, at_time⟩

theorem Punctual.ring (punctual : p.Punctual chance now none) {alarm : PunchAlarm} {rest : Alarms PunchAlarm}
    (rings : p.alarms.ring? now = some (alarm, rest)) : ({ p with alarms := rest } : Puncher).Punctual chance now (some alarm) where
  measured := punctual.measured
  limit := punctual.limit
  going := punctual.going
  paced := punctual.paced
  ticketed := ⟨punctual.ticketed.drawn, punctual.ticketed.single⟩
  timely key hs found := by
    have timely := punctual.timely key hs found
    obtain ⟨time, after, bound, set⟩ := timely.retry
    exact ⟨timely.timeout, timely.total, timely.stage, Rings.ring (timely.deadline.resolve_left (by simp)) rings,
      time, after, bound, Rings.ring (set.resolve_left (by simp)) rings⟩

/-- Alarms of other kinds are nothing that a handshake has waited for. -/
theorem Punctual.of_other {alarm : PunchAlarm} (punctual : p.Punctual chance now (some alarm))
    (retry : ∀ key id, alarm ≠ .retry key id) (deadline : ∀ key id, alarm ≠ .deadline key id) : p.Punctual chance now none :=
  { punctual with
    timely := fun key hs found => by
      have timely := punctual.timely key hs found
      obtain ⟨time, after, bound, set⟩ := timely.retry
      refine ⟨timely.timeout, timely.total, timely.stage, .inr ?_, time, after, bound, .inr ?_⟩
      · exact timely.deadline.resolve_left fun rung => deadline key hs.deadlineId (Option.some.inj rung)
      · exact set.resolve_left fun rung => retry key hs.retryId (Option.some.inj rung) }

/-- What an alarm leads to keeps the handshakes punctual. -/
theorem onAlarm_punctual {alarm : PunchAlarm} (punctual : p.Punctual c.chance c.now (some alarm))
    (distinct : c.chance.Distinct (p.onAlarm c alarm).1.drawn) (whole : Time.Whole c.now) :
    (p.onAlarm c alarm).1.Punctual c.chance c.now none := by
  have going := punctual.going
  cases alarm with
  | retry key id =>
    have same : p.onAlarm c (.retry key id) = p.retry c key id := by simp [onAlarm, going]
    rw [same] at distinct ⊢
    exact (retry_move key id).punctual punctual distinct whole
  | deadline key id =>
    have same : p.onAlarm c (.deadline key id) = p.onDeadline key id := by simp [onAlarm, going]
    rw [same] at distinct ⊢
    exact (onDeadline_move key id).punctual punctual distinct whole
  | _ => exact (onAlarm_moves _).punctual (punctual.of_other (by simp) (by simp)) distinct whole

end

/-- What happens to a puncher in time: it is told something or one of its alarms rings, or time passes until another
whole millisecond, but not beyond the next alarm. -/
inductive Tick (chance : Chance) : Nat × Puncher → Nat × Puncher → Prop where
  | handles {p : Puncher} {c : Surroundings} (same : c.chance = chance) (command : PunchCommand) :
    Tick chance (c.now, p) (c.now, (p.handle c command).1)
  | rings {p : Puncher} {c : Surroundings} {step : PunchStep} (same : c.chance = chance) (rings : p.ring? c = some step) :
    Tick chance (c.now, p) (c.now, step.1)
  | passes {p : Puncher} {now : Nat} (ms : Nat) (early : ∀ next, p.alarms.next? = some next → now + Time.ofMillis ms ≤ next) :
    Tick chance (now, p) (now + Time.ofMillis ms, p)

theorem Lapse.tick {chance : Chance} {last : Nat} {s t : Nat × Puncher} (lapse : Lapse chance last s t) : Tick chance s t := by
  cases lapse with
  | rings same rings => exact .rings same rings
  | passes ms _ early _ => exact .passes ms early

/-- Whether every handshake is what one has become, or has been begun with a ticket of its own and a deadline. -/
def Descends (chance : Chance) (due : Nat) (p q : Puncher) : Prop := ∀ key later, q.handshakes.get? key = some later →
  (∃ hs, p.handshakes.get? key = some hs ∧ hs.Follows later) ∨ later.deadline = due ∧ chance.Draws p.drawn q.drawn later.pingId

section

variable {c : Surroundings} {input : PunchInput} {p q r : Puncher} {effects : List PunchEffect} {chance : Chance} {due : Nat}

theorem Descends.refl (chance : Chance) (due : Nat) (p : Puncher) : Descends chance due p p := by
  intro key hs found
  exact .inl ⟨hs, found, .refl hs⟩

theorem Descends.trans (first : Descends chance due p q) (second : Descends chance due q r) (before : p.drawn ≤ q.drawn)
    (after : q.drawn ≤ r.drawn) : Descends chance due p r := by
  intro key last found
  rcases second key last found with ⟨later, known, follows⟩ | ⟨ends, draws⟩
  · rcases first key later known with ⟨hs, old, followed⟩ | ⟨ends, draws⟩
    · exact .inl ⟨hs, old, followed.trans follows⟩
    · exact .inr ⟨follows.deadline.trans ends, follows.pingId ▸ draws.mono (Nat.le_refl _) after⟩
  · exact .inr ⟨ends, draws.mono before (Nat.le_refl _)⟩

theorem Move.descends (move : Move c input p q effects) : Descends c.chance (c.now + p.handshakeLimit) p q := by
  intro key later found
  cases move.origin found with
  | edited known edited asleep => exact .inl ⟨_, known, .of_edited edited⟩
  | @retried hs rto known given some_left early next drawn alarms =>
    have follows : hs.Follows (p.retried c hs rto) := ⟨rfl, rfl, fun going => ⟨going, Nat.le_refl _⟩⟩
    exact .inl ⟨hs, known, follows.trans (.of_edited (Handshake.Edited.refl _).attempted)⟩
  | opened idle own same next =>
    subst same next
    exact .inr ⟨rfl, p.drawn, Nat.le_refl _, Nat.lt_add_of_pos_right (by decide), rfl⟩

theorem Moves.descends (moves : Moves c input p q effects) : Descends c.chance (c.now + p.handshakeLimit) p q := by
  induction moves with
  | refl => exact Descends.refl _ _ p
  | step before move ih =>
    have same : _ = p.handshakeLimit := before.constant.2.2.1
    exact ih.trans (same ▸ move.descends) before.drawn_le move.drawn_le

end

section

open Relation

variable {chance : Chance} {s t u : Nat × Puncher}

/-- What a tick comes to apart from the alarms: some moves, if anything. -/
theorem Tick.moves (tick : Tick chance s t) : s.2 = t.2 ∨ ∃ c : Surroundings, c.now = s.1 ∧ c.chance = chance ∧
    ∃ input effects alarms, Moves c input { s.2 with alarms } t.2 effects := by
  cases tick with
  | @handles p c same command => exact .inr ⟨c, rfl, same, _, _, p.alarms, handle_moves command⟩
  | @rings p c step same rings =>
    obtain ⟨⟨alarm, rest⟩, _, rfl⟩ := Option.map_eq_some_iff.mp rings
    exact .inr ⟨c, rfl, same, _, _, rest, onAlarm_moves alarm⟩
  | passes ms early => exact .inl rfl

theorem Tick.drawn_le (tick : Tick chance s t) : s.2.drawn ≤ t.2.drawn := by
  rcases tick.moves with same | ⟨c, _, _, input, effects, alarms, moves⟩
  · exact Nat.le_of_eq (congrArg drawn same)
  · exact moves.drawn_le

theorem Tick.constant (tick : Tick chance s t) : t.2.backoff = s.2.backoff ∧ t.2.handshakeLimit = s.2.handshakeLimit := by
  rcases tick.moves with same | ⟨c, _, _, input, effects, alarms, moves⟩
  · rw [same]
    exact ⟨rfl, rfl⟩
  · exact ⟨moves.constant.2.1, moves.constant.2.2.1⟩

theorem Tick.descends (tick : Tick chance s t) : Descends chance (s.1 + s.2.handshakeLimit) s.2 t.2 := by
  rcases tick.moves with same | ⟨c, now, chance, input, effects, alarms, moves⟩
  · rw [same]
    exact Descends.refl _ _ t.2
  · have descends := moves.descends
    rw [now, chance] at descends
    exact descends

theorem Tick.punctual (tick : Tick chance s t) (punctual : s.2.Punctual chance s.1 none) (whole : Time.Whole s.1)
    (distinct : chance.Distinct t.2.drawn) : t.2.Punctual chance t.1 none ∧ Time.Whole t.1 := by
  cases tick with
  | handles same command =>
    subst same
    exact ⟨(handle_moves command).punctual punctual distinct whole, whole⟩
  | @rings p c step same rings =>
    subst same
    obtain ⟨⟨alarm, rest⟩, rung, rfl⟩ := Option.map_eq_some_iff.mp rings
    exact ⟨onAlarm_punctual (punctual.ring rung) distinct whole, whole⟩
  | @passes p now ms early =>
    refine ⟨{ punctual with timely := fun key hs found => ?_ }, whole.add (Time.whole_ofMillis ms)⟩
    have timely := punctual.timely key hs found
    obtain ⟨time, after, bound, set⟩ := timely.retry
    refine { timely with retry := ⟨time, ?_, bound, set⟩ }
    obtain ⟨alarm, known, _, rings⟩ := set.resolve_left (by simp)
    obtain ⟨next, first, before⟩ := Alarms.next?_le known rings
    exact Nat.le_trans (early next first) before

theorem Ticks.drawn_le (ticks : ReflTransGen (Tick chance) s t) : s.2.drawn ≤ t.2.drawn := by
  induction ticks with
  | refl => exact Nat.le_refl _
  | tail _ tick ih => exact Nat.le_trans ih tick.drawn_le

theorem Ticks.constant (ticks : ReflTransGen (Tick chance) s t) :
    t.2.backoff = s.2.backoff ∧ t.2.handshakeLimit = s.2.handshakeLimit := by
  induction ticks with
  | refl => exact ⟨rfl, rfl⟩
  | tail _ tick ih => exact ⟨tick.constant.1.trans ih.1, tick.constant.2.trans ih.2⟩

theorem Ticks.punctual (ticks : ReflTransGen (Tick chance) s t) (punctual : s.2.Punctual chance s.1 none)
    (whole : Time.Whole s.1) (distinct : chance.Distinct t.2.drawn) : t.2.Punctual chance t.1 none ∧ Time.Whole t.1 := by
  induction ticks with
  | refl => exact ⟨punctual, whole⟩
  | tail _ tick ih =>
    obtain ⟨earlier, whole⟩ := ih (distinct.mono tick.drawn_le)
    exact tick.punctual earlier whole distinct

/-- Whatever is pending under the ticket of a handshake is what that has become. -/
theorem Ticks.follows (ticks : ReflTransGen (Tick chance) s t) (ticketed : s.2.Ticketed chance)
    (distinct : chance.Distinct t.2.drawn) {key own : PeerKey} {hs later : Handshake} (found : s.2.handshakes.get? key = some hs)
    (known : t.2.handshakes.get? own = some later) (same : later.pingId = hs.pingId) : hs.Follows later := by
  have worn : s.2.Wears (.ping key) hs.pingId := ⟨hs, found, rfl⟩
  induction ticks generalizing own later with
  | refl =>
    cases ticketed.single (.ping own) (.ping key) hs.pingId ⟨later, known, same⟩ worn
    cases found.symm.trans known
    exact .refl hs
  | tail before tick ih =>
    rcases tick.descends own later known with ⟨old, there, follows⟩ | ⟨_, n, drawn, last, new⟩
    · exact (ih (distinct.mono tick.drawn_le) there (follows.pingId.symm.trans same)).trans follows
    · have drawn := Nat.le_trans (Ticks.drawn_le before) drawn
      exact absurd (new.symm.trans same ▸ worn) (ticketed.unworn distinct drawn last _)

theorem punctual_ofConfig {config : Config} (measured : config.punch.backoff.Measured) (me : Identity) (chance : Chance)
    (now : Nat) : (ofConfig config me).Punctual chance now none where
  measured := measured
  limit := Time.whole_ofMillis _
  going := rfl
  paced key request waits := by cases waits
  ticketed := ticketed_ofConfig chance config me
  timely key hs found := by cases found

/-- Both alarms of a handshake are set, and neither has rung yet. -/
theorem Timely.pending {p : Puncher} {now : Nat} {key : PeerKey} {hs : Handshake} (timely : p.Timely now none key hs)
    (measured : p.backoff.Measured) (quiet : ∀ next, p.alarms.next? = some next → now < next) :
    now < hs.deadline ∧ now + p.handshakeLimit < hs.deadline + p.backoff.waited p.backoff.attempts.toNat := by
  obtain ⟨_, set, _, rings⟩ := timely.deadline.resolve_left (by simp)
  obtain ⟨next, first, no_later⟩ := Alarms.next?_le set rings
  obtain ⟨time, _, bound, armed⟩ := timely.retry
  obtain ⟨_, known, _, at_time⟩ := armed.resolve_left (by simp)
  obtain ⟨_, again, no_later_either⟩ := Alarms.next?_le known at_time
  cases first.symm.trans again
  have early := quiet next first
  have attempts := measured.some_attempt
  have total := timely.total
  unfold retries at total
  have all := p.backoff.waited_le_waited (show hs.attempt + 1 ≤ p.backoff.attempts.toNat by omega)
  exact ⟨by omega, by omega⟩

/-- A handshake that has not ended is within its time, has lost no retry and has not gone back. -/
theorem pending_in_time {config : Config} {me : Identity} {start : Nat} {s t u v : Nat × Puncher} {key : PeerKey}
    {id : Ticket} {hs later : Handshake} (measured : config.punch.backoff.Measured) (distinct : chance.Distinct v.2.drawn)
    (before : ReflTransGen (Tick chance) (Time.ofMillis start, ofConfig config me) s) (begins : Tick chance s t)
    (new : ¬ s.2.Wears (.ping key) id) (begun : t.2.Wears (.ping key) id) (meanwhile : ReflTransGen (Tick chance) t u)
    (found : u.2.handshakes.get? key = some hs) (own : hs.pingId = id) (afterwards : ReflTransGen (Tick chance) u v)
    (still : v.2.handshakes.get? key = some later) (same : later.pingId = id) :
    (Quiet v → v.1 < s.1 + min (Time.ofMillis config.courier.handshakeLimit.toNat)
      (config.punch.backoff.waited config.punch.backoff.attempts.toNat)) ∧
    later.attempt + later.retriesLeft = config.punch.backoff.attempts.toNat - 1 ∧ hs.stage.rank ≤ later.stage.rank := by
  have to_begin := before.tail begins
  have to_found := to_begin.trans meanwhile
  have backoff : v.2.backoff = config.punch.backoff := (Ticks.constant (to_found.trans afterwards)).1
  have limit : v.2.handshakeLimit = Time.ofMillis config.courier.handshakeLimit.toNat :=
    (Ticks.constant (to_found.trans afterwards)).2
  have started := punctual_ofConfig measured me chance (Time.ofMillis start)
  have whole := Time.whole_ofMillis start
  have shorter := distinct.mono (Ticks.drawn_le afterwards)
  have earlier := shorter.mono (Ticks.drawn_le meanwhile)
  obtain ⟨at_begin, _⟩ := Ticks.punctual to_begin started whole earlier
  obtain ⟨at_found, _⟩ := Ticks.punctual to_found started whole shorter
  obtain ⟨at_end, _⟩ := Ticks.punctual (to_found.trans afterwards) started whole distinct
  have timely := at_end.timely key later still
  have total := timely.total
  rw [retries, backoff] at total
  refine ⟨fun quiet => ?_, total, ?_⟩
  · obtain ⟨first, opened, named⟩ := begun
    have due : later.deadline = s.1 + s.2.handshakeLimit := by
      rcases begins.descends key first opened with ⟨old, there, follows⟩ | ⟨due, _⟩
      · exact absurd ⟨old, there, follows.pingId.symm.trans named⟩ new
      · have follows := Ticks.follows (meanwhile.trans afterwards) at_begin.ticketed distinct opened still (same.trans named.symm)
        exact follows.deadline.trans due
    have first_limit : s.2.handshakeLimit = Time.ofMillis config.courier.handshakeLimit.toNat := (Ticks.constant before).2
    obtain ⟨in_time, in_tries⟩ := timely.pending at_end.measured quiet
    rw [due, limit, backoff, first_limit] at in_tries
    rw [due, first_limit] at in_time
    generalize Time.ofMillis config.courier.handshakeLimit.toNat = limit at in_time in_tries ⊢
    omega
  · have follows := Ticks.follows afterwards at_found.ticketed distinct found still (same.trans own.symm)
    exact (follows.stage (at_found.timely key hs found).stage).2

/-- A handshake ends within the time that handshakes may last and within the time that its transmissions take. Until then
no retry is lost, and its course does not go back. Nor can the end fail to come: an alarm whose time has come rings and is
handled, and where nothing more is told, the clock comes to any later millisecond and the puncher to rest there, without the
handshake once that time is over. -/
theorem handshake_lifetime {config : Config} {me : Identity} {start : Nat} {s t u v : Nat × Puncher} {key : PeerKey}
    {id : Ticket} {hs later : Handshake} (measured : config.punch.backoff.Measured) (distinct : chance.Distinct v.2.drawn)
    (before : ReflTransGen (Tick chance) (Time.ofMillis start, ofConfig config me) s) (begins : Tick chance s t)
    (new : ¬ s.2.Wears (.ping key) id) (begun : t.2.Wears (.ping key) id) (meanwhile : ReflTransGen (Tick chance) t u)
    (found : u.2.handshakes.get? key = some hs) (own : hs.pingId = id) (afterwards : ReflTransGen (Tick chance) u v)
    (still : v.2.handshakes.get? key = some later) (same : later.pingId = id) :
    (Quiet v → v.1 < s.1 + min (Time.ofMillis config.courier.handshakeLimit.toNat)
      (config.punch.backoff.waited config.punch.backoff.attempts.toNat)) ∧
    later.attempt + later.retriesLeft = config.punch.backoff.attempts.toNat - 1 ∧ hs.stage.rank ≤ later.stage.rank ∧
    (∀ c next, v.2.alarms.next? = some next → next ≤ c.now → ∃ set alarm, v.2.alarms.table.get? set = some alarm ∧
      alarm.rings? = some next ∧ v.2.ring? c = some (({ v.2 with alarms := v.2.alarms.rung set alarm }).onAlarm c alarm.event)) ∧
    ∀ ms, Inevitable (Lapse chance (v.1 + Time.ofMillis ms)) (fun w => w.1 = v.1 + Time.ofMillis ms ∧ Quiet w ∧
      (s.1 + min (Time.ofMillis config.courier.handshakeLimit.toNat)
        (config.punch.backoff.waited config.punch.backoff.attempts.toNat) ≤ w.1 →
        chance.Distinct w.2.drawn → ¬ w.2.Wears (.ping key) id)) v := by
  obtain ⟨in_time, kept, onward⟩ :=
    pending_in_time measured distinct before begins new begun meanwhile found own afterwards still same
  have run := ((before.tail begins).trans meanwhile).trans afterwards
  obtain ⟨_, whole⟩ := Ticks.punctual run (punctual_ofConfig measured me chance (Time.ofMillis start)) (Time.whole_ofMillis start) distinct
  refine ⟨in_time, kept, onward, fun c next soon reached => ring?_of_due soon reached, fun ms => ?_⟩
  refine (rests chance v.2 whole ms).with_steps.mono fun w ⟨⟨instant, quiet⟩, lapses⟩ => ⟨instant, quiet, fun long fresh wears => ?_⟩
  obtain ⟨last, pending, named⟩ := wears
  have further := afterwards.trans (lapses.lift (fun s => s) fun _ _ lapse => lapse.tick)
  have short := (pending_in_time measured fresh before begins new begun meanwhile found own further pending named).1 quiet
  exact absurd long (Nat.not_le.mpr short)

/-- A node that anyone can reach, and the other that it calls. -/
def caller : Identity := ⟨⟨.ofOctets 10 0 0 1, 4000, 1⟩, 0, none⟩

def called : Contact := ⟨⟨.ofOctets 10 0 0 2, 4000, 2⟩, 0, .unrestricted, []⟩

def calling : Surroundings := ⟨0, 0, (Roster.empty 3).enter 1 .unrestricted, .counting 0⟩

/-- A node calls another and has two transmissions. Time passes until its retry rings, which sets off the second; then nothing
is left to do until the last timeout rings and ends the handshake. -/
theorem retried_handshake_lifetime :
    let config : Config := { punch := { backoff := ⟨500, .finite false 5404319552844595 (-52), 2⟩ } }
    let begun := ((ofConfig config caller).handle calling (.connect called (.ok []))).1
    let half : Surroundings := { calling with now := Time.ofMillis 500 }
    let final : Surroundings := { calling with now := Time.ofMillis 1100 }
    ∃ first retried effects hs ended, begun.handshakes.get? called.key = some first ∧
      begun.ring? half = some (retried, effects) ∧ retried.handshakes.get? called.key = some hs ∧
      hs.pingId = first.pingId ∧ hs.attempt = first.attempt + 1 ∧ first.stage.rank ≤ hs.stage.rank ∧
      hs.attempt + hs.retriesLeft = config.punch.backoff.attempts.toNat - 1 ∧ Quiet (half.now, retried) ∧
      half.now < 0 + min (Time.ofMillis config.courier.handshakeLimit.toNat)
        (config.punch.backoff.waited config.punch.backoff.attempts.toNat) ∧
      retried.ring? final = some ended ∧ ended.1.handshakes.get? called.key = none ∧
      Inevitable (Lapse (.counting 0) (half.now + Time.ofMillis 600)) (fun w => w.1 = half.now + Time.ofMillis 600 ∧ Quiet w ∧
        ((Chance.counting 0).Distinct w.2.drawn → ¬ w.2.Wears (.ping called.key) first.pingId)) (half.now, retried) := by
  intro config begun half final
  have measured : config.punch.backoff.Measured := by
    refine ⟨by decide, fun count less => ?_⟩
    have few : count < 2 := less
    obtain rfl | rfl : count = 0 ∨ count = 1 := by omega
    · rfl
    · decide +kernel
  let step := (begun.ring? half).getD (begun, [])
  have rung : begun.ring? half = some step := by
    obtain ⟨value, same⟩ := Option.isSome_iff_exists.mp (show (begun.ring? half).isSome = true by decide +kernel)
    show begun.ring? half = some ((begun.ring? half).getD _)
    rw [same, Option.getD_some]
  have next : step.1.alarms.next? = some final.now := by decide +kernel
  have distinct : (Chance.counting 0).Distinct step.1.drawn := Chance.counting_distinct (by decide +kernel)
  have calls : Tick (.counting 0) (0, ofConfig config caller) (0, begun) := .handles (c := calling) rfl _
  have waits : Tick (.counting 0) (0, begun) (0 + Time.ofMillis 500, begun) := by
    refine .passes 500 fun soon first => ?_
    have at_time : begun.alarms.next? = some half.now := by decide +kernel
    cases at_time.symm.trans first
    decide +kernel
  rw [Nat.zero_add] at waits
  have retries : Tick (.counting 0) (half.now, begun) (half.now, step.1) := .rings (c := half) rfl rung
  obtain ⟨first, known⟩ : ∃ first, begun.handshakes.get? called.key = some first := Option.isSome_iff_exists.mp (by decide +kernel)
  obtain ⟨hs, found⟩ : ∃ hs, step.1.handshakes.get? called.key = some hs := Option.isSome_iff_exists.mp (by decide +kernel)
  have goes_on : (step.1.handshakes.get? called.key).map (fun hs => (hs.pingId, hs.attempt)) =
      (begun.handshakes.get? called.key).map fun hs => (hs.pingId, hs.attempt + 1) := by decide +kernel
  rw [known, found, Option.map_some, Option.map_some, Option.some_inj, Prod.mk.injEq] at goes_on
  have new : ¬ (ofConfig config caller).Wears (.ping called.key) first.pingId := by
    rintro ⟨_, nothing, _⟩
    cases nothing
  have before : ReflTransGen (Tick (.counting 0)) (Time.ofMillis 0, ofConfig config caller) (0, ofConfig config caller) := .refl
  obtain ⟨in_time, kept, onward, due, ends⟩ := handshake_lifetime measured distinct before calls new ⟨first, known, rfl⟩
    (.single waits) known rfl (.single retries) found goes_on.1
  have quiet : Quiet (half.now, step.1) := by
    intro soon first
    cases next.symm.trans first
    decide +kernel
  obtain ⟨id, alarm, _, _, rings⟩ := due final final.now next (Nat.le_refl _)
  have gone : (((step.1.ring? final).map (·.1.handshakes.get? called.key)).getD none).isNone = true := by decide +kernel
  rw [rings, Option.map_some, Option.getD_some, Option.isNone_iff_eq_none] at gone
  refine ⟨first, step.1, step.2, hs, _, known, rung, found, goes_on.1, goes_on.2, onward, kept, quiet, in_time quiet, rings, gone,
    (ends 600).mono fun w ⟨instant, rest, ended⟩ => ⟨instant, rest, ended ?_⟩⟩
  rw [instant]
  decide +kernel

end

end Puncher

end NatTraversal
