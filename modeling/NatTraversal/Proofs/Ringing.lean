import NatTraversal.Proofs.Alarms

namespace NatTraversal

namespace Time

/-- Whether an instant is a whole millisecond. -/
def Whole (t : Nat) : Prop := ceilMillis t = t

theorem ceilMillis_zero : ceilMillis 0 = 0 := by decide

theorem ceilMillis_ofMillis_add (ms span : Nat) : ceilMillis (ofMillis ms + span) = ofMillis ms + ceilMillis span := by
  have pos : 0 < millisecond := by decide
  unfold ceilMillis ofMillis
  generalize millisecond = unit at pos ⊢
  rw [Nat.add_assoc, Nat.mul_comm ms, Nat.mul_add_div pos, Nat.add_mul, Nat.mul_comm unit]

theorem whole_ofMillis (ms : Nat) : Whole (ofMillis ms) := by
  have exactly := ceilMillis_ofMillis_add ms 0
  rwa [ceilMillis_zero, Nat.add_zero] at exactly

theorem Whole.ceilMillis_add {now : Nat} (whole : Whole now) (span : Nat) : ceilMillis (now + span) = now + ceilMillis span := by
  have millis : now = ofMillis ((now + (millisecond - 1)) / millisecond) := whole.symm
  rw [millis]
  exact ceilMillis_ofMillis_add _ span

theorem whole_ceilMillis (t : Nat) : Whole (ceilMillis t) := whole_ofMillis _

/-- Between two whole milliseconds there is one at least. -/
theorem Whole.next_le {now later : Nat} (whole : Whole now) (also : Whole later) (before : now < later) :
    now + ofMillis 1 ≤ later := by
  have first : now = ofMillis ((now + (millisecond - 1)) / millisecond) := whole.symm
  have second : later = ofMillis ((later + (millisecond - 1)) / millisecond) := also.symm
  rw [first, second] at before ⊢
  unfold ofMillis at before ⊢
  rw [← Nat.add_mul]
  exact Nat.mul_le_mul_right _ (Nat.lt_of_mul_lt_mul_right before)

theorem Whole.add {now span : Nat} (whole : Whole now) (also : Whole span) : Whole (now + span) :=
  (whole.ceilMillis_add span).trans (congrArg (now + ·) also)

end Time

/-- When an alarm is due, first at `due`, as far as it has rung by the instant `last`. -/
def dueTimes (due : Nat) (period : Option Nat) (last : Nat) : List Nat :=
  let count := if last < Time.ceilMillis due then 0 else match period with
    | none => 1
    | some 0 => 0
    | some (period + 1) => (Time.ofMillis (Time.toMillis last) - due) / (period + 1) + 1
  (List.range count).map fun k => due + k * period.getD 0

theorem dueTimes_of_early {due last : Nat} (early : last < Time.ceilMillis due) (period : Option Nat) :
    dueTimes due period last = [] := by
  simp [dueTimes, early]

theorem dueTimes_once {due last : Nat} (reached : Time.ceilMillis due ≤ last) : dueTimes due none last = [due] := by
  simp [dueTimes, Nat.not_lt.mpr reached]

theorem dueTimes_never (due last : Nat) : dueTimes due (some 0) last = [] := by
  simp [dueTimes]

theorem dueTimes_again {due last period : Nat} (reached : Time.ceilMillis due ≤ last) (pos : period ≠ 0) :
    dueTimes due (some period) last = due :: dueTimes (due + period) (some period) last := by
  obtain ⟨step, rfl⟩ := Nat.exists_eq_succ_of_ne_zero pos
  have counts : ∀ first, dueTimes first (some (step + 1)) last = (List.range (if last < Time.ceilMillis first then 0 else
      (Time.ofMillis (Time.toMillis last) - first) / (step + 1) + 1)).map fun k => first + k * (step + 1) := fun first => rfl
  have whole := (Time.ceilMillis_le_iff due last).mp reached
  rw [Nat.succ_eq_add_one, counts, counts, if_neg (Nat.not_lt.mpr reached), List.range_succ_eq_map, List.map_cons, List.map_map,
    Nat.zero_mul, Nat.add_zero]
  congr 1
  have shifted : ((fun k => due + k * (step + 1)) ∘ Nat.succ) = fun k => due + (step + 1) + k * (step + 1) := by
    funext k
    simp only [Function.comp_apply, Nat.succ_eq_add_one, Nat.add_one_mul]
    omega
  rw [shifted]
  congr 2
  have limit := Time.ceilMillis_le_iff (due + (step + 1)) last
  generalize Time.ofMillis (Time.toMillis last) = whole_last at *
  split
  · rename_i early
    rw [Nat.div_eq_of_lt]
    omega
  · rename_i later
    have more := limit.mp (Nat.not_lt.mp later)
    rw [← Nat.sub_sub, Nat.div_eq_sub_div (Nat.succ_pos step) (by omega)]

/-- What an alarm is heard to ring by the instant `last`, and when. -/
def Alarm.heard {ε : Type} (alarm : Alarm ε) (last : Nat) : List (Nat × ε) :=
  (dueTimes alarm.due alarm.period last).map fun due => (Time.ceilMillis due, alarm.event)

namespace Alarm

variable {ε : Type} {alarm : Alarm ε} {last time : Nat}

theorem rings?_eq_some : alarm.rings? = some time ↔ alarm.period ≠ some 0 ∧ time = Time.ceilMillis alarm.due := by
  unfold rings?
  split
  · rename_i never
    exact ⟨nofun, fun rings => absurd never rings.1⟩
  · rename_i again
    exact ⟨fun rings => ⟨again, (Option.some.inj rings).symm⟩, fun rings => congrArg some rings.2.symm⟩

theorem heard_of_early (early : ∀ time, alarm.rings? = some time → last < time) : alarm.heard last = [] := by
  unfold heard
  by_cases never : alarm.period = some 0
  · rw [never, dueTimes_never, List.map_nil]
  · rw [dueTimes_of_early (early _ (if_neg never)), List.map_nil]

/-- The first time that an alarm rings, and what it then has ahead, whatever rank it is given. -/
theorem heard_of_rings (rings : alarm.rings? = some time) (reached : time ≤ last) (rank : Nat) : alarm.heard last =
    (time, alarm.event) :: match alarm.period with
      | none => []
      | some period => (⟨alarm.due + period, rank, some period, alarm.event⟩ : Alarm ε).heard last := by
  obtain ⟨due, _, period, event⟩ := alarm
  unfold rings? at rings
  split at rings
  · cases rings
  · rename_i again
    cases rings
    cases period with
    | none => simp only [heard, dueTimes_once reached, List.map_cons, List.map_nil]
    | some period => simp only [heard, dueTimes_again reached (fun zero => again (congrArg some zero)), List.map_cons]

theorem length_heard_le {period : Nat} (again : alarm.period = some period) (last : Nat) :
    (alarm.heard last).length ≤ (last - alarm.due) / period + 1 := by
  have whole : Time.ofMillis (Time.toMillis last) ≤ last := Nat.div_mul_le_self ..
  unfold heard dueTimes
  rw [List.length_map, List.length_map, List.length_range, again]
  split
  · exact Nat.zero_le _
  · cases period with
    | zero => exact Nat.zero_le _
    | succ period => exact Nat.succ_le_succ (Nat.div_le_div_right (Nat.sub_le_sub_right whole _))

theorem rings?_whole (rings : alarm.rings? = some time) : Time.Whole time := by
  rw [(rings?_eq_some.mp rings).2]
  exact Time.whole_ceilMillis _

end Alarm

namespace Alarms

variable {ε : Type} {alarms rest : Alarms ε} {id : Ticket} {alarm : Alarm ε} {now time : Nat} {rung : List (Nat × ε)}

theorem next?_whole (soon : alarms.next? = some time) : Time.Whole time := by
  obtain ⟨⟨_, _, id, alarm⟩, first, rfl⟩ := Option.map_eq_some_iff.mp soon
  exact Alarm.rings?_whole (first?_eq_some first).2

/-- What the alarms that are set are heard to ring, each by an instant of its own if it is left to ring at all. -/
def owed (last : Ticket → Option Nat) (alarms : Alarms ε) : List (Nat × ε) :=
  alarms.table.entries.flatMap fun entry => ((last entry.1).map entry.2.heard).getD []

theorem owed_congr {last other : Ticket → Option Nat} (same : ∀ id alarm, alarms.table.get? id = some alarm →
    ((last id).map alarm.heard).getD [] = ((other id).map alarm.heard).getD []) : owed last alarms = owed other alarms := by
  unfold owed
  rw [List.flatMap_def, List.flatMap_def]
  congr 1
  exact List.map_congr_left fun entry member => same entry.1 entry.2 (Table.get?_eq_some_iff.mpr member)

theorem owed_of_get? (last : Ticket → Option Nat) (set : alarms.table.get? id = some alarm) :
    (owed last alarms).Perm (((last id).map alarm.heard).getD [] ++ owed last (alarms.drop id)) :=
  (Table.entries_perm_of_get? set).flatMap_right _

theorem owed_insert (last : Ticket → Option Nat) (alarm : Alarm ε) (alarms : Alarms ε) (id : Ticket) (armed : Nat) :
    (owed last ⟨alarms.table.insert id alarm, armed⟩).Perm
      (((last id).map alarm.heard).getD [] ++ owed last (alarms.drop id)) :=
  (Table.entries_insert_perm ..).flatMap_right _

/-- What alarms owe, one of which is not left to ring. -/
theorem owed_drop {last : Ticket → Option Nat} (ended : last id = none) :
    (owed last alarms).Perm (owed last (alarms.drop id)) := by
  cases set : alarms.table.get? id with
  | none =>
    have same : (alarms.drop id).table = alarms.table := Table.erase_eq_self set
    rw [owed, owed, same]
  | some alarm =>
    have perm := owed_of_get? last set
    rwa [ended] at perm

/-- An alarm that rings has paid the first part of what it owes. -/
theorem owed_rung (last : Ticket → Option Nat) {limit : Nat} (set : alarms.table.get? id = some alarm)
    (rings : alarm.rings? = some time) (left : last id = some limit) (reached : time ≤ limit) :
    (owed last alarms).Perm ((time, alarm.event) :: owed last (alarms.rung id alarm)) := by
  have before := owed_of_get? last set
  rw [left, Option.map_some, Option.getD_some, Alarm.heard_of_rings rings reached alarms.armed, List.cons_append] at before
  refine before.trans (List.Perm.cons _ ?_)
  cases again : alarm.period with
  | none =>
    have same : alarms.rung id alarm = alarms.drop id := by rw [rung, again]
    rw [same]
    exact List.Perm.refl _
  | some period =>
    have after := owed_insert last ⟨alarm.due + period, alarms.armed, some period, alarm.event⟩ alarms id (alarms.armed + 1)
    rw [left, Option.map_some, Option.getD_some] at after
    have same : alarms.rung id alarm = alarms.armEvery id (alarm.due + period) period alarm.event := by rw [rung, again]
    rw [same]
    exact after.symm

/-- Alarms ring one by one up to `now`, each time one that no other is ahead of. -/
inductive Peal (now : Nat) : Alarms ε → List (Nat × ε) → Alarms ε → Prop
  | quiet {alarms : Alarms ε}
    (silent : ∀ id alarm time, alarms.table.get? id = some alarm → alarm.rings? = some time → now < time) :
    Peal now alarms [] alarms
  | ring {alarms rest : Alarms ε} {id : Ticket} {alarm : Alarm ε} {time : Nat} {later : List (Nat × ε)}
    (set : alarms.table.get? id = some alarm) (rings : alarm.rings? = some time) (reached : time ≤ now)
    (soonest : ∀ other next at_time, alarms.table.get? other = some next → next.rings? = some at_time → time ≤ at_time)
    (goes_on : Peal now (alarms.rung id alarm) later rest) : Peal now alarms ((time, alarm.event) :: later) rest

/-- Until each alarm has paid what it owes, there is one that rings. -/
theorem elapse_go_peal (now fuel : Nat) (alarms : Alarms ε) (enough : (owed (fun _ => some now) alarms).length ≤ fuel) :
    Peal now alarms (elapse.go now fuel alarms).1 (elapse.go now fuel alarms).2 := by
  induction fuel generalizing alarms with
  | zero =>
    refine .quiet fun id alarm time set rings => Nat.lt_of_not_le fun reached => ?_
    have paid := (owed_rung (fun _ => some now) set rings rfl reached).length_eq
    rw [List.length_cons] at paid
    omega
  | succ fuel ih =>
    rcases ring?_cases alarms now with
      ⟨none_rings, silent⟩ | ⟨id, alarm, time, next, rings_now, set, rings, reached, soonest⟩
    · have stop : elapse.go now (fuel + 1) alarms = ([], alarms) := by
        rw [elapse.go, none_rings]
        split
        · rename_i found
          cases found
        · rfl
      rw [stop]
      exact .quiet silent
    · have paid := (owed_rung (fun _ => some now) set rings rfl reached).length_eq
      rw [List.length_cons] at paid
      have on : elapse.go now (fuel + 1) alarms =
          ((time, alarm.event) :: (elapse.go now fuel (alarms.rung id alarm)).1, (elapse.go now fuel (alarms.rung id alarm)).2) := by
        rw [elapse.go, next, rings_now]
      rw [on]
      exact .ring set rings reached soonest (ih _ (by omega))

theorem length_flatMap_le_foldl {α β : Type} {f : α → List β} {g : α → Nat} (le : ∀ a, (f a).length ≤ g a) (l : List α)
    (start : Nat) : start + (l.flatMap f).length ≤ (l.map g).foldl (· + ·) start := by
  induction l generalizing start with
  | nil => exact Nat.le_refl _
  | cons a l ih =>
    rw [List.flatMap_cons, List.length_append, List.map_cons, List.foldl_cons, ← Nat.add_assoc]
    exact Nat.le_trans (Nat.add_le_add_right (Nat.add_le_add_left (le a) _) _) (ih _)

/-- No more can ring than `elapse` makes room for. -/
theorem length_owed_le (alarms : Alarms ε) (now : Nat) : (owed (fun _ => some now) alarms).length ≤ alarms.ringings now := by
  unfold owed ringings Table.values
  rw [List.map_map, ← Nat.zero_add (List.length _)]
  refine length_flatMap_le_foldl (fun entry => ?_) _ 0
  rw [Function.comp_apply, Option.map_some, Option.getD_some]
  generalize entry.2 = alarm
  cases rings : alarm.rings? with
  | none =>
    rw [Alarm.heard_of_early (by simp [rings])]
    exact Nat.zero_le _
  | some time =>
    by_cases reached : time ≤ now
    · cases again : alarm.period with
      | none => simp [Alarm.heard_of_rings rings reached 0, again, reached]
      | some period => simpa only [if_pos reached] using Alarm.length_heard_le again now
    · have early : ∀ at_time, alarm.rings? = some at_time → now < at_time := by
        intro at_time same
        cases rings.symm.trans same
        exact Nat.lt_of_not_le reached
      rw [Alarm.heard_of_early early]
      exact Nat.zero_le _

theorem elapse_peal (alarms : Alarms ε) (now : Nat) : Peal now alarms (alarms.elapse now).1 (alarms.elapse now).2 :=
  elapse_go_peal now _ alarms (length_owed_le alarms now)

namespace Peal

/-- Alarms that ring pay what they owe, as far as they are left to ring at least until then. -/
theorem pays (peal : Peal now alarms rung rest) {last : Ticket → Option Nat}
    (left : ∀ id, ∃ limit, last id = some limit ∧ now ≤ limit) : (owed last alarms).Perm (rung ++ owed last rest) := by
  induction peal with
  | quiet => exact List.Perm.refl _
  | @ring _ _ id _ _ _ set rings reached _ _ ih =>
    obtain ⟨limit, left_here, later⟩ := left id
    exact (owed_rung last set rings left_here (Nat.le_trans reached later)).trans (ih.cons _)

/-- What is left rings later. -/
theorem silent (peal : Peal now alarms rung rest) (set : rest.table.get? id = some alarm) (rings : alarm.rings? = some time) :
    now < time := by
  induction peal with
  | quiet silent => exact silent id alarm time set rings
  | ring _ _ _ _ _ ih => exact ih set

/-- What is left of an alarm is the alarm, but for the time that it is due again. -/
theorem kept (peal : Peal now alarms rung rest) (left : rest.table.get? id = some alarm) :
    ∃ before, alarms.table.get? id = some before ∧ alarm.period = before.period ∧
      (before.period = none → alarm.due = before.due) := by
  induction peal with
  | quiet => exact ⟨alarm, left, rfl, fun _ => rfl⟩
  | @ring _ _ other first _ _ set _ _ _ _ ih =>
    obtain ⟨after, set_after, period, due⟩ := ih left
    by_cases same : id = other
    · subst same
      rw [get?_rung_self] at set_after
      obtain ⟨again, periodic, rfl⟩ := Option.map_eq_some_iff.mp set_after
      exact ⟨first, set, period.trans periodic.symm, fun once => by cases periodic.symm.trans once⟩
    · exact ⟨after, (get?_rung_of_ne same first).symm.trans set_after, period, due⟩

/-- An alarm is left if it rings again or has not rung. -/
theorem keeps (peal : Peal now alarms rung rest) (set : alarms.table.get? id = some alarm)
    (ahead : alarm.period = none → now < Time.ceilMillis alarm.due) :
    ∃ after, rest.table.get? id = some after ∧ after.period = alarm.period ∧ (alarm.period = none → after.due = alarm.due) := by
  induction peal generalizing alarm with
  | quiet => exact ⟨alarm, set, rfl, fun _ => rfl⟩
  | @ring ahead_of _ other first time _ set_first rings reached _ _ ih =>
    by_cases same : id = other
    · subst same
      cases set.symm.trans set_first
      cases periodic : first.period with
      | none =>
        rw [(Alarm.rings?_eq_some.mp rings).2] at reached
        exact absurd reached (Nat.not_le.mpr (ahead periodic))
      | some period =>
        have again := get?_rung_self ahead_of id first
        rw [periodic, Option.map_some] at again
        obtain ⟨after, left, period, _⟩ := ih again nofun
        exact ⟨after, left, period, nofun⟩
    · exact ih ((get?_rung_of_ne same first).trans set) ahead

/-- What rings does so in the order of time, by `now`. -/
theorem in_order (peal : Peal now alarms rung rest) {start : Nat}
    (ahead : ∀ id alarm time, alarms.table.get? id = some alarm → alarm.rings? = some time → start ≤ time) :
    rung.Pairwise (·.1 ≤ ·.1) ∧ ∀ ringing ∈ rung, start ≤ ringing.1 ∧ ringing.1 ≤ now := by
  induction peal generalizing start with
  | quiet => exact ⟨.nil, nofun⟩
  | @ring alarms _ id alarm time later set rings reached soonest _ ih =>
    have onward : ∀ other next at_time, (alarms.rung id alarm).table.get? other = some next → next.rings? = some at_time →
        time ≤ at_time := by
      intro other next at_time set_next rings_next
      by_cases same : other = id
      · subst same
        rw [get?_rung_self] at set_next
        obtain ⟨period, _, rfl⟩ := Option.map_eq_some_iff.mp set_next
        rw [(Alarm.rings?_eq_some.mp rings).2, (Alarm.rings?_eq_some.mp rings_next).2]
        exact Time.ceilMillis_mono (Nat.le_add_right ..)
      · exact soonest other next at_time ((get?_rung_of_ne same alarm).symm.trans set_next) rings_next
    obtain ⟨sorted, within⟩ := ih onward
    have first := ahead id alarm time set rings
    refine ⟨.cons (fun ringing member => (within ringing member).1) sorted, fun ringing member => ?_⟩
    rcases List.mem_cons.mp member with rfl | member
    · exact ⟨first, reached⟩
    · exact ⟨Nat.le_trans first (within ringing member).1, (within ringing member).2⟩

end Peal

end Alarms

end NatTraversal
