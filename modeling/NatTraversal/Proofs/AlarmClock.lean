import NatTraversal.Proofs.Ringing

namespace NatTraversal

/-- What is done with alarms, and the time that passes in between. -/
inductive AlarmDeed (ε : Type) where
  /-- Sets an alarm, with a period for one that rings again. -/
  | arm (id : Ticket) (delay : Nat) (period : Option Nat) (event : ε)
  | cancel (id : Ticket)
  | cancelAll
  | pass (span : Nat)

/-- Alarms, the time that it is, and what has rung, and when. -/
structure AlarmClock (ε : Type) where
  now : Nat := 0
  alarms : Alarms ε := {}
  rung : List (Nat × ε) := []

namespace AlarmClock

variable {ε : Type}

def perform (clock : AlarmClock ε) : AlarmDeed ε → AlarmClock ε
  | .arm id delay none event => { clock with alarms := clock.alarms.arm id (clock.now + delay) event }
  | .arm id delay (some period) event => { clock with alarms := clock.alarms.armEvery id (clock.now + delay) period event }
  | .cancel id => { clock with alarms := (clock.alarms.cancel id).2 }
  | .cancelAll => { clock with alarms := clock.alarms.cancelAll }
  | .pass span =>
    let past := clock.alarms.elapse (clock.now + span)
    ⟨clock.now + span, past.2, clock.rung ++ past.1⟩

def play (clock : AlarmClock ε) (deeds : List (AlarmDeed ε)) : AlarmClock ε := deeds.foldl perform clock

end AlarmClock

namespace AlarmDeed

variable {ε : Type}

def span : AlarmDeed ε → Nat
  | pass span => span
  | _ => 0

/-- Whether a deed puts an end to the alarm of a ticket, if only by setting another one in its place. -/
def ends (id : Ticket) : AlarmDeed ε → Bool
  | arm other .. => other = id
  | cancel other => other = id
  | cancelAll => true
  | pass _ => false

/-- Whether it is about whole milliseconds. -/
def Whole : AlarmDeed ε → Prop
  | arm _ delay period _ => Time.millisecond ∣ delay ∧ Time.millisecond ∣ period.getD 0
  | pass span => Time.millisecond ∣ span
  | cancel _ => True
  | cancelAll => True

instance (deed : AlarmDeed ε) : Decidable deed.Whole :=
  match deed with
  | arm _ _ _ _ => inferInstanceAs (Decidable (_ ∧ _))
  | pass _ => inferInstanceAs (Decidable (_ ∣ _))
  | cancel _ => .isTrue trivial
  | cancelAll => .isTrue trivial

/-- The instant up to which alarms have rung in the end; nothing where no time has been left for any to ring. -/
def lastWait (now : Nat) : List (AlarmDeed ε) → Option Nat
  | [] => none
  | pass span :: later => some ((lastWait (now + span) later).getD (now + span))
  | _ :: later => lastWait now later

/-- What is done as long as the alarm of a ticket is left alone. -/
def life (id : Ticket) (deeds : List (AlarmDeed ε)) : List (AlarmDeed ε) := deeds.takeWhile fun deed => !deed.ends id

/-- What an alarm owes, first due at `due` and set just before some deeds: its event, for each time that it is due before
one of them puts an end to it. -/
def owes (now : Nat) (id : Ticket) (due : Nat) (period : Option Nat) (event : ε) (deeds : List (AlarmDeed ε)) : List (Nat × ε) :=
  match lastWait now (life id deeds) with
  | none => []
  | some last => (dueTimes due period last).map (·, event)

/-- What all alarms owe that are set by some deeds. -/
def schedule (now : Nat) : List (AlarmDeed ε) → List (Nat × ε)
  | [] => []
  | arm id delay period event :: later => owes now id (now + delay) period event later ++ schedule now later
  | deed :: later => schedule (now + deed.span) later

/-- Whether an alarm that is first due at `due` outlasts some deeds: none puts an end to it, and it rings again or has not
rung yet. -/
structure Outlasts (now : Nat) (id : Ticket) (due : Nat) (period : Option Nat) (deeds : List (AlarmDeed ε)) : Prop where
  kept : ∀ deed ∈ deeds, deed.ends id = false
  ahead : period = none → ∀ last, lastWait now deeds = some last → last < Time.ceilMillis due

/-- Whether one of some deeds sets an alarm under a ticket that outlasts the later ones. -/
inductive Leaves (id : Ticket) : Nat → List (AlarmDeed ε) → Prop
  | here {now delay : Nat} {period : Option Nat} {event : ε} {later : List (AlarmDeed ε)}
    (outlasts : Outlasts now id (now + delay) period later) : Leaves id now (.arm id delay period event :: later)
  | later {now : Nat} {deed : AlarmDeed ε} {later : List (AlarmDeed ε)} (leaves : Leaves id (now + deed.span) later) :
    Leaves id now (deed :: later)

end AlarmDeed

namespace AlarmDeed

variable {ε : Type} {id : Ticket} {now due last : Nat} {period : Option Nat} {deed : AlarmDeed ε} {later deeds : List (AlarmDeed ε)}

theorem le_lastWait (waits : lastWait now deeds = some last) : now ≤ last := by
  induction deeds generalizing now last with
  | nil => cases waits
  | cons deed later ih =>
    cases deed with
    | pass span =>
      have waits : (lastWait (now + span) later).getD (now + span) = last := Option.some.inj waits
      cases onward : lastWait (now + span) later with
      | none => exact waits ▸ onward ▸ Nat.le_add_right ..
      | some limit =>
        rw [onward, Option.getD_some] at waits
        exact waits ▸ Nat.le_trans (Nat.le_add_right ..) (ih onward)
    | arm | cancel | cancelAll => exact ih waits

/-- Until when an alarm may ring that is set before some deeds. -/
def chance (now : Nat) (deeds : List (AlarmDeed ε)) (id : Ticket) : Option Nat := lastWait now (life id deeds)

theorem chance_of_ends (ends : deed.ends id = true) : chance now (deed :: later) id = none := by
  rw [chance, life, List.takeWhile_cons, ends]
  rfl

theorem chance_of_not_ends (goes_on : deed.ends id = false) :
    chance now (deed :: later) id = lastWait now (deed :: life id later) := by
  rw [chance, life, List.takeWhile_cons, goes_on]
  rfl

theorem owes_eq (now : Nat) (id : Ticket) (alarm : Alarm ε) (deeds : List (AlarmDeed ε)) :
    ((chance now deeds id).map alarm.heard).getD [] =
      (owes now id alarm.due alarm.period alarm.event deeds).map (Prod.map Time.ceilMillis fun event => event) := by
  unfold owes chance
  cases lastWait now (life id deeds) with
  | none => simp only [Option.map_none, Option.getD_none, List.map_nil]
  | some last =>
    rw [Option.map_some, Option.getD_some, Alarm.heard, List.map_map]
    rfl

theorem dvd_of_mem_dueTimes {time : Nat} (due_whole : Time.millisecond ∣ due) (period_whole : Time.millisecond ∣ period.getD 0)
    (member : time ∈ dueTimes due period last) : Time.millisecond ∣ time := by
  obtain ⟨count, _, rfl⟩ := List.mem_map.mp member
  exact Nat.dvd_add due_whole (Nat.dvd_mul_left_of_dvd period_whole count)

/-- What is owed among deeds about whole milliseconds is owed at whole milliseconds. -/
theorem dvd_of_mem_schedule (now_whole : Time.millisecond ∣ now) (whole : ∀ deed ∈ deeds, deed.Whole) {owed : Nat × ε}
    (member : owed ∈ schedule now deeds) : Time.millisecond ∣ owed.1 := by
  induction deeds generalizing now with
  | nil => cases member
  | cons deed later ih =>
    have later_whole := fun other known => whole other (List.mem_cons_of_mem _ known)
    have here := whole deed List.mem_cons_self
    cases deed with
    | arm id delay period event =>
      rcases List.mem_append.mp member with first | rest
      · unfold owes at first
        cases waits : lastWait now (life id later) with
        | none =>
          rw [waits] at first
          cases first
        | some last =>
          rw [waits] at first
          obtain ⟨time, due, rfl⟩ := List.mem_map.mp first
          exact dvd_of_mem_dueTimes (Nat.dvd_add now_whole here.1) here.2 due
      · exact ih now_whole later_whole rest
    | cancel | cancelAll => exact ih now_whole later_whole member
    | pass span => exact ih (Nat.dvd_add now_whole here) later_whole member

end AlarmDeed

namespace AlarmClock

open AlarmDeed Alarms

variable {ε : Type} {clock : AlarmClock ε} {id : Ticket} {now : Nat} {deed : AlarmDeed ε} {later : List (AlarmDeed ε)}

theorem perform_arm (clock : AlarmClock ε) (id : Ticket) (delay : Nat) (period : Option Nat) (event : ε) :
    clock.perform (.arm id delay period event) = { clock with
      alarms := ⟨clock.alarms.table.insert id ⟨clock.now + delay, clock.alarms.armed, period, event⟩, clock.alarms.armed + 1⟩ } := by
  cases period <;> rfl

theorem perform_now (clock : AlarmClock ε) (deed : AlarmDeed ε) : (clock.perform deed).now = clock.now + deed.span := by
  cases deed with
  | arm => rw [perform_arm]; rfl
  | cancel | cancelAll | pass => rfl

/-- What alarms still owe if some deeds follow. -/
def owing (clock : AlarmClock ε) (deeds : List (AlarmDeed ε)) : List (Nat × ε) :=
  owed (chance clock.now deeds) clock.alarms ++ (schedule clock.now deeds).map (Prod.map Time.ceilMillis fun event => event)

/-- Once the alarm of a ticket is put to an end, the others owe what they did. -/
theorem owed_of_ends (alarms : Alarms ε) (deed : AlarmDeed ε) (ends : deed.ends id = true)
    (others : ∀ other, other ≠ id → deed.ends other = false)
    (at_once : ∀ rest, lastWait now (deed :: rest) = lastWait now rest) (later : List (AlarmDeed ε)) :
    (owed (chance now (deed :: later)) alarms).Perm (owed (chance now later) (alarms.drop id)) := by
  refine (owed_drop (chance_of_ends ends)).trans (.of_eq (owed_congr fun other alarm set => ?_))
  have apart : other ≠ id := by
    rintro rfl
    rw [get?_drop, if_pos rfl] at set
    cases set
  rw [chance_of_not_ends (others other apart), at_once]
  rfl

/-- What a deed makes ring is what is no longer owed after it. -/
theorem perform_pays (clock : AlarmClock ε) (deed : AlarmDeed ε) (later : List (AlarmDeed ε)) :
    ((clock.perform deed).rung ++ (clock.perform deed).owing later).Perm (clock.rung ++ clock.owing (deed :: later)) := by
  cases deed with
  | arm id delay period event =>
    rw [perform_arm]
    refine List.Perm.append_left _ ?_
    have before : (owed (chance clock.now (.arm id delay period event :: later)) clock.alarms).Perm _ :=
      owed_of_ends clock.alarms (.arm id delay period event) (decide_eq_true rfl)
        (fun other apart => decide_eq_false (Ne.symm apart)) (fun _ => rfl) later
    have after := owed_insert (chance clock.now later) ⟨clock.now + delay, clock.alarms.armed, period, event⟩ clock.alarms id
      (clock.alarms.armed + 1)
    rw [owes_eq] at after
    unfold owing
    rw [schedule, List.map_append, ← List.append_assoc]
    exact (after.trans (List.perm_append_comm.trans (before.symm.append_right _))).append_right _
  | cancel id =>
    have before : (owed (chance clock.now (.cancel id :: later)) clock.alarms).Perm _ :=
      owed_of_ends clock.alarms (.cancel id) (decide_eq_true rfl) (fun other apart => decide_eq_false (Ne.symm apart))
        (fun _ => rfl) later
    exact (before.symm.append_right _).append_left _
  | cancelAll =>
    have nothing : owed (chance clock.now (.cancelAll :: later)) clock.alarms = [] := by
      unfold owed
      refine List.flatMap_eq_nil_iff.mpr fun entry _ => ?_
      rw [chance_of_ends rfl]
      rfl
    unfold owing
    rw [nothing]
    exact List.Perm.refl _
  | pass span =>
    have peal := elapse_peal clock.alarms (clock.now + span)
    have waits : ∀ id, chance clock.now (.pass span :: later) id =
        some ((chance (clock.now + span) later id).getD (clock.now + span)) := fun id => chance_of_not_ends rfl
    have left : ∀ id, ∃ limit, chance clock.now (.pass span :: later) id = some limit ∧ clock.now + span ≤ limit := by
      intro id
      refine ⟨_, waits id, ?_⟩
      cases onward : chance (clock.now + span) later id with
      | none => exact Nat.le_refl _
      | some limit => exact le_lastWait onward
    have same : owed (chance clock.now (.pass span :: later)) (clock.alarms.elapse (clock.now + span)).2 =
        owed (chance (clock.now + span) later) (clock.alarms.elapse (clock.now + span)).2 := by
      refine owed_congr fun id alarm set => ?_
      rw [waits]
      cases chance (clock.now + span) later id with
      | none =>
        rw [Option.getD_none, Option.map_some, Option.getD_some, Option.map_none, Option.getD_none]
        exact Alarm.heard_of_early fun time rings => peal.silent set rings
      | some limit => rfl
    have paid := peal.pays left
    rw [same] at paid
    have all := (paid.append_left clock.rung).append_right
      ((schedule (clock.now + span) later).map (Prod.map Time.ceilMillis fun event => event))
    rw [← List.append_assoc, List.append_assoc, List.append_assoc] at all
    exact all.symm

/-- In the end all that was owed has rung. -/
theorem play_pays (clock : AlarmClock ε) (deeds : List (AlarmDeed ε)) :
    (clock.play deeds).rung.Perm (clock.rung ++ clock.owing deeds) := by
  induction deeds generalizing clock with
  | nil =>
    have nothing : owed (chance clock.now ([] : List (AlarmDeed ε))) clock.alarms = [] := by
      unfold owed
      exact List.flatMap_eq_nil_iff.mpr fun entry _ => rfl
    unfold owing
    rw [nothing, schedule, List.map_nil, List.append_nil, List.append_nil]
    exact List.Perm.refl _
  | cons deed later ih => exact (ih (clock.perform deed)).trans (perform_pays clock deed later)

/-- What an alarm clock keeps to: what has rung is in the order of time, and what is left lies ahead. -/
structure Steady (clock : AlarmClock ε) : Prop where
  sorted : clock.rung.Pairwise (·.1 ≤ ·.1)
  past : ∀ ringing ∈ clock.rung, ringing.1 ≤ clock.now
  ahead : ∀ id alarm time, clock.alarms.table.get? id = some alarm → alarm.rings? = some time → clock.now ≤ time

theorem steady_init : Steady ({} : AlarmClock ε) := by
  refine ⟨.nil, fun ringing member => ?_, fun id alarm time set => ?_⟩
  · cases member
  · cases set

theorem Steady.perform (steady : clock.Steady) (deed : AlarmDeed ε) : (clock.perform deed).Steady := by
  cases deed with
  | arm id delay period event =>
    rw [perform_arm]
    refine ⟨steady.sorted, steady.past, fun other alarm time set rings => ?_⟩
    rw [Table.get?_insert] at set
    split at set
    · cases set
      rw [(Alarm.rings?_eq_some.mp rings).2]
      exact Nat.le_trans (Nat.le_add_right ..) (Time.le_ceilMillis _)
    · exact steady.ahead other alarm time set rings
  | cancel id =>
    exact ⟨steady.sorted, steady.past, fun other alarm time set => steady.ahead other alarm time (Table.get?_of_erase set)⟩
  | cancelAll =>
    refine ⟨steady.sorted, steady.past, fun id alarm time set => ?_⟩
    cases set
  | pass span =>
    have peal := elapse_peal clock.alarms (clock.now + span)
    obtain ⟨sorted, within⟩ := peal.in_order steady.ahead
    refine ⟨List.pairwise_append.mpr ⟨steady.sorted, sorted, ?_⟩, ?_,
      fun id alarm time set rings => Nat.le_of_lt (peal.silent set rings)⟩
    · intro old before new after
      exact Nat.le_trans (steady.past old before) (within new after).1
    · intro ringing member
      rcases List.mem_append.mp member with before | after
      · exact Nat.le_trans (steady.past ringing before) (Nat.le_add_right ..)
      · exact (within ringing after).2

theorem Steady.play (steady : clock.Steady) (deeds : List (AlarmDeed ε)) : (clock.play deeds).Steady := by
  induction deeds generalizing clock with
  | nil => exact steady
  | cons deed later ih => exact ih (steady.perform deed)

/-- A deed that takes no time is outlasted unless it puts an end to the alarm. -/
theorem outlasts_cons (deed : AlarmDeed ε) (at_once : ∀ rest, lastWait now (deed :: rest) = lastWait (now + deed.span) rest)
    {due : Nat} {period : Option Nat} (goes_on : deed.ends id = false) :
    Outlasts now id due period (deed :: later) ↔ Outlasts (now + deed.span) id due period later := by
  constructor
  · intro outlasts
    exact ⟨fun other member => outlasts.kept other (List.mem_cons_of_mem _ member), fun once last waits =>
      outlasts.ahead once last ((at_once later).trans waits)⟩
  · intro outlasts
    refine ⟨fun other member => ?_, fun once last waits => outlasts.ahead once last ((at_once later).symm.trans waits)⟩
    rcases List.mem_cons.mp member with rfl | member
    · exact goes_on
    · exact outlasts.kept other member

theorem outlasts_pass {span due : Nat} {period : Option Nat} : Outlasts now id due period (.pass span :: later) ↔
    (period = none → now + span < Time.ceilMillis due) ∧ Outlasts (now + span) id due period later := by
  have waits : lastWait now (.pass span :: later) = some ((lastWait (now + span) later).getD (now + span)) := rfl
  constructor
  · intro outlasts
    refine ⟨fun once => ?_, fun other member => outlasts.kept other (List.mem_cons_of_mem _ member), fun once last onward => ?_⟩
    · refine Nat.lt_of_le_of_lt ?_ (outlasts.ahead once _ waits)
      cases onward : lastWait (now + span) later with
      | none => exact Nat.le_refl _
      | some last => exact le_lastWait onward
    · refine outlasts.ahead once last (waits.trans ?_)
      rw [onward, Option.getD_some]
  · rintro ⟨ahead, outlasts⟩
    refine ⟨fun other member => ?_, fun once last waited => ?_⟩
    · rcases List.mem_cons.mp member with rfl | member
      · rfl
      · exact outlasts.kept other member
    · cases waits.symm.trans waited
      cases onward : lastWait (now + span) later with
      | none => exact ahead once
      | some last => exact outlasts.ahead once last onward

theorem leaves_cons : Leaves id now (deed :: later) ↔
    (∃ delay period event, deed = .arm id delay period event ∧ Outlasts now id (now + delay) period later) ∨
      Leaves id (now + deed.span) later := by
  constructor
  · rintro (outlasts | leaves)
    · exact .inl ⟨_, _, _, rfl, outlasts⟩
    · exact .inr leaves
  · rintro (⟨_, _, _, rfl, outlasts⟩ | leaves)
    · exact .here outlasts
    · exact .later leaves

theorem goes_on_of_outlasts {due : Nat} {period : Option Nat} (outlasts : Outlasts now id due period (deed :: later)) :
    deed.ends id = false :=
  outlasts.kept deed List.mem_cons_self

/-- An alarm that is set after a deed and outlasts the later ones was set before and outlasts that deed too, or is set by it. -/
theorem perform_scheduled (clock : AlarmClock ε) (id : Ticket) (deed : AlarmDeed ε) (later : List (AlarmDeed ε)) :
    (∃ alarm, (clock.perform deed).alarms.table.get? id = some alarm ∧
        Outlasts (clock.now + deed.span) id alarm.due alarm.period later) ↔
      (∃ alarm, clock.alarms.table.get? id = some alarm ∧ Outlasts clock.now id alarm.due alarm.period (deed :: later)) ∨
        ∃ delay period event, deed = .arm id delay period event ∧ Outlasts clock.now id (clock.now + delay) period later := by
  cases deed with
  | arm other delay period event =>
    rw [perform_arm]
    by_cases same : id = other
    · subst same
      constructor
      · rintro ⟨alarm, set, outlasts⟩
        cases set.symm.trans ((Table.get?_insert ..).trans (if_pos rfl))
        exact .inr ⟨delay, period, event, rfl, outlasts⟩
      · rintro (⟨alarm, _, outlasts⟩ | ⟨_, _, _, here, outlasts⟩)
        · cases of_decide_eq_false (goes_on_of_outlasts outlasts) rfl
        · cases here
          exact ⟨_, (Table.get?_insert ..).trans (if_pos rfl), outlasts⟩
    · have apart := (clock.alarms.table.get?_insert other id ⟨clock.now + delay, clock.alarms.armed, period, event⟩).trans
        (if_neg same)
      have onward : ∀ alarm : Alarm ε, Outlasts clock.now id alarm.due alarm.period (.arm other delay period event :: later) ↔
          Outlasts clock.now id alarm.due alarm.period later :=
        fun alarm => outlasts_cons _ (fun _ => rfl) (decide_eq_false (Ne.symm same))
      constructor
      · rintro ⟨alarm, set, outlasts⟩
        exact .inl ⟨alarm, apart.symm.trans set, (onward alarm).mpr outlasts⟩
      · rintro (⟨alarm, set, outlasts⟩ | ⟨_, _, _, here, _⟩)
        · exact ⟨alarm, apart.trans set, (onward alarm).mp outlasts⟩
        · cases here
          cases same rfl
  | cancel other =>
    constructor
    · rintro ⟨alarm, set, outlasts⟩
      have apart : other ≠ id := by
        rintro rfl
        cases set.symm.trans ((Table.get?_erase ..).trans (if_pos rfl))
      exact .inl ⟨alarm, Table.get?_of_erase set,
        (outlasts_cons (.cancel other) (fun _ => rfl) (decide_eq_false apart)).mpr outlasts⟩
    · rintro (⟨alarm, set, outlasts⟩ | ⟨_, _, _, here, _⟩)
      · by_cases same : other = id
        · cases of_decide_eq_false (goes_on_of_outlasts outlasts) same
        · exact ⟨alarm, (get?_drop clock.alarms other id).trans ((if_neg (Ne.symm same)).trans set),
            (outlasts_cons (.cancel other) (fun _ => rfl) (decide_eq_false same)).mp outlasts⟩
      · cases here
  | cancelAll =>
    constructor
    · rintro ⟨_, set, _⟩
      cases set
    · rintro (⟨_, _, outlasts⟩ | ⟨_, _, _, here, _⟩)
      · cases goes_on_of_outlasts outlasts
      · cases here
  | pass span =>
    have peal := elapse_peal clock.alarms (clock.now + span)
    constructor
    · rintro ⟨alarm, left, outlasts⟩
      obtain ⟨before, set, period, due⟩ := peal.kept left
      refine .inl ⟨before, set, outlasts_pass.mpr ⟨fun once => ?_, ?_⟩⟩
      · rw [← due once]
        exact peal.silent left (Alarm.rings?_eq_some.mpr ⟨by rw [period, once]; nofun, rfl⟩)
      · exact ⟨outlasts.kept, fun once last waits => due once ▸ outlasts.ahead (period.trans once) last waits⟩
    · rintro (⟨alarm, set, outlasts⟩ | ⟨_, _, _, here, _⟩)
      · obtain ⟨ahead, outlasts⟩ := outlasts_pass.mp outlasts
        obtain ⟨after, left, period, due⟩ := peal.keeps set ahead
        refine ⟨after, left, outlasts.kept, fun once last waits => ?_⟩
        rw [period] at once
        exact due once ▸ outlasts.ahead once last waits
      · cases here

/-- After some deeds an alarm is set under a ticket that was set before them and outlasts them, or that one of them leaves. -/
theorem play_scheduled (clock : AlarmClock ε) (id : Ticket) (deeds : List (AlarmDeed ε)) :
    (clock.play deeds).alarms.isScheduled id = true ↔
      (∃ alarm, clock.alarms.table.get? id = some alarm ∧ Outlasts clock.now id alarm.due alarm.period deeds) ∨
        Leaves id clock.now deeds := by
  induction deeds generalizing clock with
  | nil =>
    rw [Alarms.isScheduled, Table.contains_eq_isSome, Option.isSome_iff_exists]
    constructor
    · rintro ⟨alarm, set⟩
      exact .inl ⟨alarm, set, nofun, nofun⟩
    · rintro (⟨alarm, set, _⟩ | nothing)
      · exact ⟨alarm, set⟩
      · cases nothing
  | cons deed later ih =>
    have onward := ih (clock.perform deed)
    rw [perform_now, perform_scheduled, or_assoc, ← leaves_cons] at onward
    exact onward

/-- Whatever is done with alarms: each rings once, or once in each period, when it is due until it is put to an end, and at
the next whole millisecond where that is none; all ring in the order of time; a ticket is known, also to a request to cancel
it, as long as it has an alarm that is still to ring; and an alarm takes the place of the one of the same ticket. -/
theorem rings_as_scheduled (deeds : List (AlarmDeed ε)) :
    let clock := ({} : AlarmClock ε).play deeds
    (clock.rung.Perm ((schedule 0 deeds).map (Prod.map Time.ceilMillis fun event => event)) ∧
      ((∀ deed ∈ deeds, deed.Whole) → clock.rung.Perm (schedule 0 deeds)) ∧ clock.rung.Pairwise (·.1 ≤ ·.1)) ∧
    (∀ id, (clock.alarms.isScheduled id = true ↔ Leaves id 0 deeds) ∧
      ((clock.alarms.cancel id).1 = true ↔ Leaves id 0 deeds)) ∧
    ∀ id delay period event other, (clock.perform (.arm id delay period event)).alarms.table.get? other =
      if other = id then some ⟨clock.now + delay, clock.alarms.armed, period, event⟩ else clock.alarms.table.get? other := by
  intro clock
  have nothing : owed (chance 0 deeds) ({} : Alarms ε) = [] := rfl
  have rung : clock.rung.Perm ([] ++ (owed (chance 0 deeds) {} ++
    (schedule 0 deeds).map (Prod.map Time.ceilMillis fun event => event))) := play_pays {} deeds
  rw [nothing, List.nil_append, List.nil_append] at rung
  have scheduled : ∀ id, clock.alarms.isScheduled id = true ↔ Leaves id 0 deeds := by
    intro id
    refine (play_scheduled {} id deeds).trans ⟨?_, .inr⟩
    rintro (⟨_, set, _⟩ | leaves)
    · cases set
    · exact leaves
  refine ⟨⟨rung, fun whole => ?_, ?_⟩, fun id => ⟨scheduled id, scheduled id⟩, fun id delay period event other => ?_⟩
  · have same : ∀ owed ∈ schedule 0 deeds, Prod.map Time.ceilMillis (fun event => event) owed = owed := by
      intro owed member
      rw [Prod.map, Time.ceilMillis_eq_self (dvd_of_mem_schedule (Nat.dvd_zero _) whole member)]
    rwa [List.map_congr_left same, List.map_id'] at rung
  · exact (steady_init.play deeds).sorted
  · rw [perform_arm]
    exact Table.get?_insert ..

/-- An alarm of ticket 1 is replaced before it rings, and cancelled in vain after that; one of ticket 2 rings again and again. -/
theorem rings_as_scheduled_in_turn :
    let deeds : List (AlarmDeed Nat) := [.arm ⟨1⟩ (Time.ofMillis 5) none 10,
      .arm ⟨2⟩ (Time.ofMillis 2) (some (Time.ofMillis 10)) 20, .pass (Time.ofMillis 3), .arm ⟨1⟩ (Time.ofMillis 4) none 30,
      .pass (Time.ofMillis 20), .cancel ⟨1⟩]
    let clock := ({} : AlarmClock Nat).play deeds
    (∀ deed ∈ deeds, deed.Whole) ∧ clock.rung.Perm [(Time.ofMillis 2, 20), (Time.ofMillis 12, 20), (Time.ofMillis 22, 20),
      (Time.ofMillis 7, 30)] ∧ (clock.alarms.cancel ⟨1⟩).1 = false ∧ (clock.alarms.cancel ⟨2⟩).1 = true := by
  intro deeds clock
  have whole : ∀ deed ∈ deeds, deed.Whole := by decide +kernel
  obtain ⟨⟨_, rung, _⟩, _, _⟩ := rings_as_scheduled deeds
  refine ⟨whole, ?_, ?_, ?_⟩
  · have owed : schedule 0 deeds =
        [(Time.ofMillis 2, 20), (Time.ofMillis 12, 20), (Time.ofMillis 22, 20), (Time.ofMillis 7, 30)] := by
      decide +kernel
    exact owed ▸ rung whole
  · decide +kernel
  · decide +kernel

end AlarmClock

end NatTraversal
