import NatTraversal.Alarms

namespace NatTraversal

namespace Alarms

variable {ε : Type}

@[simp] theorem get?_arm (alarms : Alarms ε) (id : Ticket) (due : Nat) (event : ε) (other : Ticket) :
    (alarms.arm id due event).table.get? other =
      if other = id then some ⟨due, alarms.armed, none, event⟩ else alarms.table.get? other :=
  Table.get?_insert ..

@[simp] theorem get?_armEvery (alarms : Alarms ε) (id : Ticket) (due period : Nat) (event : ε) (other : Ticket) :
    (alarms.armEvery id due period event).table.get? other =
      if other = id then some ⟨due, alarms.armed, some period, event⟩ else alarms.table.get? other :=
  Table.get?_insert ..

@[simp] theorem get?_drop (alarms : Alarms ε) (id other : Ticket) :
    (alarms.drop id).table.get? other = if other = id then none else alarms.table.get? other :=
  Table.get?_erase ..

/-- An alarm that rings leaves the others alone. -/
theorem get?_rung_of_ne {alarms : Alarms ε} {id other : Ticket} (apart : other ≠ id) (alarm : Alarm ε) :
    (alarms.rung id alarm).table.get? other = alarms.table.get? other := by
  unfold rung
  split
  · rw [get?_drop, if_neg apart]
  · rw [get?_armEvery, if_neg apart]

theorem get?_rung_self (alarms : Alarms ε) (id : Ticket) (alarm : Alarm ε) : (alarms.rung id alarm).table.get? id =
    alarm.period.map fun period => ⟨alarm.due + period, alarms.armed, some period, alarm.event⟩ := by
  unfold rung
  split
  · rename_i once
    rw [get?_drop, if_pos rfl, once, Option.map_none]
  · rename_i period again
    rw [get?_armEvery, if_pos rfl, again, Option.map_some]

theorem sooner_eq (a b : Nat × Nat × Ticket × Alarm ε) : sooner a b = a ∨ sooner a b = b := by
  unfold sooner
  split
  · exact .inl rfl
  · exact .inr rfl

theorem sooner_le (a b : Nat × Nat × Ticket × Alarm ε) : (sooner a b).1 ≤ a.1 ∧ (sooner a b).1 ≤ b.1 := by
  unfold sooner
  split <;> omega

/-- What the search for the next alarm has found after some of them: one of these that rings no later than any other. -/
theorem foldl_sooner (ringing : List (Nat × Nat × Ticket × Alarm ε)) (start : Option (Nat × Nat × Ticket × Alarm ε)) :
    let best := ringing.foldl (fun best next => some (match best with | some b => sooner b next | none => next)) start
    (∀ a ∈ ringing, ∃ b, best = some b ∧ b.1 ≤ a.1) ∧ (∀ a, start = some a → ∃ b, best = some b ∧ b.1 ≤ a.1) ∧
      ∀ b, best = some b → b ∈ ringing ∨ start = some b := by
  induction ringing generalizing start with
  | nil => exact ⟨by simp, fun a same => ⟨a, same, Nat.le_refl _⟩, fun b same => .inr same⟩
  | cons next ringing ih =>
    cases start with
    | none =>
      obtain ⟨each, first, found⟩ := ih (some next)
      refine ⟨?_, by simp, ?_⟩
      · intro a member
        rcases List.mem_cons.mp member with rfl | later
        · exact first a rfl
        · exact each a later
      · intro b same
        rcases found b same with later | now
        · exact .inl (List.mem_cons_of_mem _ later)
        · cases now
          exact .inl List.mem_cons_self
    | some before =>
      obtain ⟨each, first, found⟩ := ih (some (sooner before next))
      obtain ⟨b, best, early⟩ := first _ rfl
      have bounds := sooner_le before next
      refine ⟨?_, ?_, ?_⟩
      · intro a member
        rcases List.mem_cons.mp member with rfl | later
        · exact ⟨b, best, Nat.le_trans early bounds.2⟩
        · exact each a later
      · intro a same
        cases same
        exact ⟨b, best, Nat.le_trans early bounds.1⟩
      · intro b same
        rcases found b same with later | now
        · exact .inl (List.mem_cons_of_mem _ later)
        · cases now
          rcases sooner_eq before next with old | new
          · exact .inr (by rw [old])
          · exact .inl (by rw [new]; exact List.mem_cons_self)

theorem mem_ringing {alarms : Alarms ε} {time rank : Nat} {id : Ticket} {alarm : Alarm ε} :
    (time, rank, id, alarm) ∈ alarms.table.entries.filterMap (fun (id, alarm) => alarm.rings?.map (·, alarm.rank, id, alarm)) ↔
      alarms.table.get? id = some alarm ∧ alarm.rings? = some time ∧ rank = alarm.rank := by
  simp only [List.mem_filterMap, Option.map_eq_some_iff, Table.get?_eq_some_iff, Prod.mk.injEq, Prod.exists]
  constructor
  · rintro ⟨_, _, member, _, rings, rfl, rfl, rfl, rfl⟩
    exact ⟨member, rings, rfl⟩
  · rintro ⟨member, rings, rfl⟩
    exact ⟨id, alarm, member, time, rings, rfl, rfl, rfl, rfl⟩

/-- No alarm that is set rings before the next one. -/
theorem next?_le {alarms : Alarms ε} {id : Ticket} {alarm : Alarm ε} {time : Nat} (set : alarms.table.get? id = some alarm)
    (rings : alarm.rings? = some time) : ∃ next, alarms.next? = some next ∧ next ≤ time := by
  obtain ⟨each, _, _⟩ := foldl_sooner
    (alarms.table.entries.filterMap fun (id, alarm) => alarm.rings?.map (·, alarm.rank, id, alarm)) none
  obtain ⟨best, first, early⟩ := each _ (mem_ringing.mpr ⟨set, rings, rfl⟩)
  have next : alarms.first? = some best := first
  exact ⟨best.1, by rw [next?, next, Option.map_some], early⟩

/-- The next alarm to ring is one that is set. -/
theorem first?_eq_some {alarms : Alarms ε} {time rank : Nat} {id : Ticket} {alarm : Alarm ε}
    (first : alarms.first? = some (time, rank, id, alarm)) : alarms.table.get? id = some alarm ∧ alarm.rings? = some time := by
  obtain ⟨_, _, found⟩ := foldl_sooner
    (alarms.table.entries.filterMap fun (id, alarm) => alarm.rings?.map (·, alarm.rank, id, alarm)) none
  rcases found _ first with member | nothing
  · obtain ⟨set, rings, _⟩ := mem_ringing.mp member
    exact ⟨set, rings⟩
  · cases nothing

/-- Either no alarm rings by `now`, or one does that no other is ahead of. -/
theorem ring?_cases (alarms : Alarms ε) (now : Nat) :
    (alarms.ring? now = none ∧ ∀ id alarm time, alarms.table.get? id = some alarm → alarm.rings? = some time → now < time) ∨
      ∃ id alarm time, alarms.next? = some time ∧ alarms.ring? now = some (alarm.event, alarms.rung id alarm) ∧
        alarms.table.get? id = some alarm ∧ alarm.rings? = some time ∧ time ≤ now ∧
        ∀ other next at_time, alarms.table.get? other = some next → next.rings? = some at_time → time ≤ at_time := by
  have soonest : ∀ time, alarms.next? = some time → ∀ other next at_time, alarms.table.get? other = some next →
      next.rings? = some at_time → time ≤ at_time := by
    intro time first other next at_time set rings
    obtain ⟨earliest, first', early⟩ := next?_le set rings
    cases first.symm.trans first'
    exact early
  cases first : alarms.first? with
  | none =>
    refine .inl ⟨by rw [ring?, first], fun id alarm time set rings => ?_⟩
    obtain ⟨earliest, first', _⟩ := next?_le set rings
    rw [next?, first] at first'
    cases first'
  | some best =>
    obtain ⟨time, rank, id, alarm⟩ := best
    have next : alarms.next? = some time := by rw [next?, first, Option.map_some]
    by_cases reached : time ≤ now
    · have rings_now : alarms.ring? now = some (alarm.event, alarms.rung id alarm) := by
        simp only [ring?, first, if_pos reached]
      obtain ⟨set, rings⟩ := first?_eq_some first
      exact .inr ⟨id, alarm, time, next, rings_now, set, rings, reached, soonest time next⟩
    · refine .inl ⟨by simp only [ring?, first, if_neg reached], fun other later at_time set rings => ?_⟩
      exact Nat.lt_of_lt_of_le (Nat.lt_of_not_le reached) (soonest time next other later at_time set rings)

/-- What rings is an alarm that is set, at a time that has come. -/
theorem ring?_eq_some {alarms rest : Alarms ε} {now : Nat} {event : ε} (rings : alarms.ring? now = some (event, rest)) :
    ∃ id alarm time, alarms.table.get? id = some alarm ∧ alarm.rings? = some time ∧ time ≤ now ∧ event = alarm.event ∧
      rest = alarms.rung id alarm := by
  rcases alarms.ring?_cases now with ⟨silent, _⟩ | ⟨id, alarm, time, _, rung, set, at_time, due, _⟩
  · cases silent.symm.trans rings
  · cases rung.symm.trans rings
    exact ⟨id, alarm, time, set, at_time, due, rfl, rfl⟩

theorem le_of_next? {alarms : Alarms ε} {next bound : Nat} (soon : alarms.next? = some next)
    (least : ∀ id alarm time, alarms.table.get? id = some alarm → alarm.rings? = some time → bound ≤ time) : bound ≤ next := by
  obtain ⟨⟨time, rank, id, alarm⟩, first, rfl⟩ := Option.map_eq_some_iff.mp soon
  obtain ⟨set, rings⟩ := first?_eq_some first
  exact least id alarm time set rings

/-- An alarm whose time has come rings if that of no other has. -/
theorem ring?_of_alone {alarms : Alarms ε} {now time : Nat} {id : Ticket} {alarm : Alarm ε}
    (set : alarms.table.get? id = some alarm) (rings : alarm.rings? = some time) (reached : time ≤ now)
    (alone : ∀ other next at_time, alarms.table.get? other = some next → next.rings? = some at_time → other = id ∨ now < at_time) :
    alarms.ring? now = some (alarm.event, alarms.rung id alarm) := by
  rcases alarms.ring?_cases now with ⟨_, silent⟩ | ⟨other, next, at_time, _, rung, known, sounds, due, _⟩
  · exact absurd (silent id alarm time set rings) (Nat.not_lt.mpr reached)
  · rcases alone other next at_time known sounds with rfl | after
    · cases set.symm.trans known
      exact rung
    · omega

end Alarms

end NatTraversal
