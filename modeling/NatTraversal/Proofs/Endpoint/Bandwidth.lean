import Mathlib.Algebra.Order.Group.Nat
import Mathlib.Algebra.Order.Monoid.Prod
import Mathlib.Algebra.Order.Sub.Basic
import Mathlib.Algebra.Order.Sub.Prod
import Mathlib.Data.List.DropRight
import Mathlib.Data.Set.Monotone
import Mathlib.Order.Interval.Set.Basic
import NatTraversal.Endpoint.Traffic

namespace NatTraversal

namespace Traffic

/-- What was read and what was written, as natural numbers. -/
def counts (traffic : Traffic) : ℕ × ℕ := (traffic.read.toNat, traffic.written.toNat)

/-- The most that 64 bits hold. -/
def most : ℕ × ℕ := (2 ^ 64 - 1, 2 ^ 64 - 1)

/-- The sum, if 64 bits hold it. -/
def add? (a b : Traffic) : Option Traffic := if a.counts + b.counts ≤ most then some (a.add b) else none

def sum? (samples : List Traffic) : Option Traffic := samples.foldlM add? zero

theorem counts_injective : Function.Injective counts := by
  intro a b same
  obtain ⟨read, written⟩ := Prod.mk.inj same
  cases a
  cases b
  exact congrArg₂ mk (UInt64.toNat_inj.mp read) (UInt64.toNat_inj.mp written)

theorem counts_le_most (traffic : Traffic) : traffic.counts ≤ most :=
  ⟨Nat.le_pred_of_lt traffic.read.toNat_lt, Nat.le_pred_of_lt traffic.written.toNat_lt⟩

theorem counts_add {a b : Traffic} (fits : a.counts + b.counts ≤ most) : (a.add b).counts = a.counts + b.counts := by
  have read : a.read.toNat + b.read.toNat < 2 ^ 64 := Nat.lt_of_le_pred (by decide) fits.1
  have written : a.written.toNat + b.written.toNat < 2 ^ 64 := Nat.lt_of_le_pred (by decide) fits.2
  simp only [counts, add, UInt64.toNat_add, Nat.mod_eq_of_lt read, Nat.mod_eq_of_lt written, Prod.mk_add_mk]

theorem toNat_since (now old : UInt64) : (if old ≤ now then now - old else 0).toNat = now.toNat - old.toNat := by
  split
  · rw [UInt64.toNat_sub_of_le _ _ ‹_›]
  · have below := UInt64.le_iff_toNat_le.not.mp ‹_›
    rw [UInt64.toNat_zero]
    omega

theorem counts_since (now old : Traffic) : (now.since old).counts = now.counts - old.counts :=
  Prod.ext (toNat_since now.read old.read) (toNat_since now.written old.written)

theorem add?_eq_some_iff {a b whole : Traffic} : a.add? b = some whole ↔ a.counts + b.counts ≤ most ∧ a.add b = whole := by
  unfold add?
  split <;> simp_all

theorem sum_eq_of_sum? {samples : List Traffic} {whole : Traffic} (sums : sum? samples = some whole) : sum samples = whole := by
  unfold sum? at sums
  unfold sum
  generalize zero = start at sums ⊢
  induction samples generalizing start with
  | nil => exact Option.some.inj sums
  | cons sample samples ih =>
    rw [List.foldlM_cons] at sums
    obtain ⟨next, added, sums⟩ := Option.bind_eq_some_iff.mp sums
    obtain ⟨-, rfl⟩ := add?_eq_some_iff.mp added
    exact ih _ sums

/-- Gains one after the other are together the gain over the whole, which 64 bits hold as they hold the last total. -/
theorem since_add?_since {a b c : Traffic} (ab : a.counts ≤ b.counts) (bc : b.counts ≤ c.counts) :
    (b.since a).add? (c.since b) = some (c.since a) := by
  have whole : (b.since a).counts + (c.since b).counts = (c.since a).counts := by
    rw [counts_since, counts_since, counts_since, add_comm, tsub_add_tsub_cancel bc ab]
  have fits : (b.since a).counts + (c.since b).counts ≤ most := whole ▸ counts_le_most _
  exact add?_eq_some_iff.mpr ⟨fits, counts_injective ((counts_add fits).trans whole)⟩

theorem since_self (traffic : Traffic) : traffic.since traffic = zero :=
  counts_injective (by rw [counts_since, tsub_self]; rfl)

end Traffic

namespace Meter

/-- The end of a minute, if 64 bits hold the sum of the hour. -/
def endMinute? (meter : Meter) : Option Meter :=
  if meter.ticks % 60 = 0 then do
    let hour ← meter.hour.add? meter.minute
    return endHour { meter with minutes := push 24 meter.minutes meter.minute, hour, minute := .zero }
  else some meter

/-- A tick, if 64 bits hold every sum on the way, that of the ticks included. -/
def tick? (meter : Meter) (total : Traffic) : Option (Bandwidth × Meter) := do
  let sample := total.since meter.last
  guard (meter.ticks.toNat + 1 < 2 ^ 64)
  let minute ← meter.minute.add? sample
  let next ← endMinute? { meter with
    last := total, ticks := meter.ticks + 1, seconds := push 60 meter.seconds sample, minute }
  let lastMinute ← Traffic.sum? next.seconds
  return (⟨sample, lastMinute⟩, next)

@[simp] theorem endMinute_last (meter : Meter) : meter.endMinute.last = meter.last := by
  unfold endMinute endHour
  split_ifs <;> rfl

@[simp] theorem endMinute_seconds (meter : Meter) : meter.endMinute.seconds = meter.seconds := by
  unfold endMinute endHour
  split_ifs <;> rfl

theorem endMinute?_eq_some (meter : Meter) {hour : Traffic} (added : meter.hour.add? meter.minute = some hour) :
    meter.endMinute? = some meter.endMinute := by
  obtain ⟨-, rfl⟩ := Traffic.add?_eq_some_iff.mp added
  unfold endMinute? endMinute
  split
  · rw [added]
    rfl
  · rfl

theorem tick?_eq_some {meter : Meter} {total minute hour lastMinute : Traffic} (counted : meter.ticks.toNat + 1 < 2 ^ 64)
    (inMinute : meter.minute.add? (total.since meter.last) = some minute) (inHour : meter.hour.add? minute = some hour)
    (inSeconds : Traffic.sum? (push 60 meter.seconds (total.since meter.last)) = some lastMinute) :
    meter.tick? total = some (meter.tick total) := by
  obtain ⟨-, rfl⟩ := Traffic.add?_eq_some_iff.mp inMinute
  obtain rfl := Traffic.sum_eq_of_sum? inSeconds
  have ended := endMinute?_eq_some { meter with
    last := total, ticks := meter.ticks + 1, seconds := push 60 meter.seconds (total.since meter.last),
    minute := meter.minute.add (total.since meter.last) } inHour
  simp only [tick?, counted, inMinute, ended, inSeconds, endMinute_seconds, guard_true, Option.pure_def, Option.bind_eq_bind,
    Option.bind_some]
  simp only [tick, lastMinute, endMinute_seconds]

theorem push_rtake {limit : ℕ} (positive : 0 < limit) (samples : List Traffic) (sample : Traffic) :
    push limit (samples.rtake limit) sample = (samples ++ [sample]).rtake limit := by
  unfold push List.rtake
  rw [List.length_drop, List.length_append, List.length_singleton, List.drop_append_of_le_length (by omega)]
  congr 1
  split
  · rw [List.drop_drop, show samples.length - limit + 1 = samples.length + 1 - limit by omega]
  · rw [show samples.length + 1 - limit = samples.length - limit by omega]

/-- The meter after a tick for each of the totals that follow the first. -/
def after (totals : ℕ → Traffic) : ℕ → Meter
  | 0 => {}
  | n + 1 => ((after totals n).tick (totals (n + 1))).2

/-- Up to that of tick `n`, the totals never fall, neither of what was read nor of what was written. -/
def Grows (totals : ℕ → Traffic) (n : ℕ) : Prop := MonotoneOn (fun i => (totals i).counts) (Set.Iic n)

/-- What came between two ticks. -/
def gain (totals : ℕ → Traffic) (first last : ℕ) : Traffic := (totals last).since (totals first)

/-- When the stretch of so many ticks began that is under way after tick `n`. -/
def begun (width n : ℕ) : ℕ := n / width * width

/-- What came in each of the latest stretches of so many ticks that are over after tick `n`. -/
def gains (totals : ℕ → Traffic) (width limit n : ℕ) : List Traffic :=
  ((List.range (n / width)).map fun stretch => gain totals (stretch * width) ((stretch + 1) * width)).rtake limit

theorem begun_le (width n : ℕ) : begun width n ≤ n := Nat.div_mul_le_self n width

theorem begun_succ {width n : ℕ} (ends : width ∣ n + 1) : begun width (n + 1) = n + 1 := Nat.div_mul_cancel ends

theorem gain_begun_succ {width n : ℕ} (totals : ℕ → Traffic) (ends : width ∣ n + 1) :
    gain totals (begun width (n + 1)) (n + 1) = .zero := by
  rw [begun_succ ends]
  exact Traffic.since_self _

theorem begun_succ_of_not_dvd {width n : ℕ} (goes : ¬width ∣ n + 1) : begun width (n + 1) = begun width n := by
  rw [begun, begun, Nat.succ_div_of_not_dvd goes]

theorem begun_mono {narrow wide : ℕ} (divides : narrow ∣ wide) (n : ℕ) : begun wide n ≤ begun narrow n := by
  obtain ⟨factor, rfl⟩ := divides
  rw [begun, begun, ← Nat.div_div_eq_div_mul, Nat.mul_comm narrow factor, ← Nat.mul_assoc]
  exact Nat.mul_le_mul_right _ (Nat.div_mul_le_self _ _)

theorem gains_succ {width limit n : ℕ} (totals : ℕ → Traffic) (positive : 0 < limit) (ends : width ∣ n + 1) :
    gains totals width limit (n + 1) = push limit (gains totals width limit n) (gain totals (begun width n) (n + 1)) := by
  have last : (n / width + 1) * width = n + 1 := by rw [← Nat.succ_div_of_dvd ends, Nat.div_mul_cancel ends]
  rw [gains, gains, push_rtake positive, Nat.succ_div_of_dvd ends, List.range_succ, List.map_append, List.map_singleton, last]
  rfl

theorem gains_succ_of_not_dvd {width limit n : ℕ} (totals : ℕ → Traffic) (goes : ¬width ∣ n + 1) :
    gains totals width limit (n + 1) = gains totals width limit n := by
  rw [gains, gains, Nat.succ_div_of_not_dvd goes]

theorem map_counts_gains (totals : ℕ → Traffic) (width limit n : ℕ) :
    (gains totals width limit n).map Traffic.counts = ((List.range (n / width)).map fun stretch =>
      (totals ((stretch + 1) * width)).counts - (totals (stretch * width)).counts).rtake limit := by
  simp only [gains, List.rtake, List.map_drop, List.map_map, List.length_map, Function.comp_def, gain, Traffic.counts_since]

section

variable {totals : ℕ → Traffic} {n : ℕ} {meter : Meter}

theorem Grows.pred (grows : Grows totals (n + 1)) : Grows totals n :=
  MonotoneOn.mono grows (Set.Iic_subset_Iic.mpr (Nat.le_succ n))

theorem gain_add?_gain (grows : Grows totals n) {a b c : ℕ} (ab : a ≤ b) (bc : b ≤ c) (cn : c ≤ n) :
    (gain totals a b).add? (gain totals b c) = some (gain totals a c) :=
  Traffic.since_add?_since (grows (ab.trans (bc.trans cn)) (bc.trans cn) ab) (grows (bc.trans cn) cn bc)

theorem sum?_gain (grows : Grows totals n) (start : ℕ) {count : ℕ} (within : start + count ≤ n) :
    Traffic.sum? ((List.range' start count).map fun i => gain totals i (i + 1)) = some (gain totals start (start + count)) := by
  induction count with
  | zero => exact congrArg some (Traffic.since_self _).symm
  | succ count ih =>
    have joined : (gain totals start (start + count)).add? (gain totals (start + count) (start + (count + 1))) =
        some (gain totals start (start + (count + 1))) := gain_add?_gain grows (by omega) (by omega) within
    rw [List.range'_1_concat, List.map_append, List.map_singleton, Traffic.sum?, List.foldlM_append, ← Traffic.sum?,
      ih (by omega), Option.bind_eq_bind, Option.bind_some, List.foldlM_cons, Nat.add_assoc, joined]
    rfl

theorem gains_seconds (totals : ℕ → Traffic) (n : ℕ) :
    gains totals 1 60 n = (List.range' (n - 60) (n - (n - 60))).map fun i => gain totals i (i + 1) := by
  simp only [gains, List.rtake, Nat.div_one, Nat.mul_one, List.length_map, List.range_eq_range', List.length_range',
    ← List.map_drop, List.drop_range', Nat.zero_add]

theorem sum?_gains (grows : Grows totals n) :
    Traffic.sum? (gains totals 1 60 n) = some (gain totals (n - 60) n) := by
  rw [gains_seconds, sum?_gain grows _ (by omega), Nat.add_sub_cancel' (Nat.sub_le n 60)]

/-- What the meter has after tick `n` of the latest second and minute. -/
structure Sampled (totals : ℕ → Traffic) (n : ℕ) (meter : Meter) : Prop where
  last : meter.last = totals n
  seconds : meter.seconds = gains totals 1 60 n

/-- What it has of the minutes and of the hours too. -/
structure Rolled (totals : ℕ → Traffic) (n : ℕ) (meter : Meter) : Prop extends Sampled totals n meter where
  ticks : meter.ticks.toNat = n
  minute : meter.minute = gain totals (begun 60 n) n
  minutes : meter.minutes = gains totals 60 24 n
  hour : meter.hour = gain totals (begun 3600 n) (begun 60 n)
  hours : meter.hours = gains totals 3600 12 n

theorem Sampled.push (sampled : Sampled totals n meter) :
    Meter.push 60 meter.seconds ((totals (n + 1)).since meter.last) = gains totals 1 60 (n + 1) := by
  rw [sampled.seconds, sampled.last, gains_succ totals (by decide) (Nat.one_dvd _), begun, Nat.div_one, Nat.mul_one]
  rfl

theorem Sampled.tick (sampled : Sampled totals n meter) : Sampled totals (n + 1) (meter.tick (totals (n + 1))).2 := by
  constructor
  · rw [Meter.tick, endMinute_last]
  · rw [Meter.tick, endMinute_seconds]
    exact sampled.push

theorem Sampled.told (sampled : Sampled totals n meter) (grows : Grows totals (n + 1)) :
    (meter.tick (totals (n + 1))).1 = ⟨gain totals n (n + 1), gain totals (n + 1 - 60) (n + 1)⟩ := by
  rw [Meter.tick, lastMinute, endMinute_seconds, sampled.push, Traffic.sum_eq_of_sum? (sum?_gains grows), sampled.last]
  rfl

theorem Rolled.ticks_succ (rolled : Rolled totals n meter) (counted : n + 1 < 2 ^ 64) : (meter.ticks + 1).toNat = n + 1 := by
  rw [UInt64.toNat_add, rolled.ticks]
  exact Nat.mod_eq_of_lt counted

/-- A stretch is over when the count of ticks says so. -/
theorem Rolled.over_iff (rolled : Rolled totals n meter) (counted : n + 1 < 2 ^ 64) (width : UInt64) :
    (meter.ticks + 1) % width = 0 ↔ width.toNat ∣ n + 1 := by
  rw [← UInt64.toNat_inj, UInt64.toNat_mod, rolled.ticks_succ counted]
  exact (Nat.dvd_iff_mod_eq_zero ..).symm

theorem Rolled.inMinute (rolled : Rolled totals n meter) (grows : Grows totals (n + 1)) :
    meter.minute.add? ((totals (n + 1)).since meter.last) = some (gain totals (begun 60 n) (n + 1)) := by
  rw [rolled.minute, rolled.last]
  exact gain_add?_gain grows (begun_le 60 n) (Nat.le_succ n) le_rfl

theorem Rolled.inHour (rolled : Rolled totals n meter) (grows : Grows totals (n + 1)) :
    meter.hour.add? (gain totals (begun 60 n) (n + 1)) = some (gain totals (begun 3600 n) (n + 1)) := by
  rw [rolled.hour]
  exact gain_add?_gain grows (begun_mono (by decide) n) ((begun_le 60 n).trans (Nat.le_succ n)) le_rfl

theorem Rolled.tick (rolled : Rolled totals n meter) (counted : n + 1 < 2 ^ 64) (grows : Grows totals (n + 1)) :
    Rolled totals (n + 1) (meter.tick (totals (n + 1))).2 := by
  obtain ⟨-, inMinute⟩ := Traffic.add?_eq_some_iff.mp (rolled.inMinute grows)
  obtain ⟨-, inHour⟩ := Traffic.add?_eq_some_iff.mp (rolled.inHour grows)
  let next : Meter := { meter with
    last := totals (n + 1), ticks := meter.ticks + 1, seconds := push 60 meter.seconds ((totals (n + 1)).since meter.last)
    minute := gain totals (begun 60 n) (n + 1) }
  have ticked : (meter.tick (totals (n + 1))).2 = next.endMinute := by
    simp only [Meter.tick, inMinute, next]
  have sampled : Sampled totals (n + 1) next.endMinute := ticked ▸ rolled.toSampled.tick
  -- An hour ends only where a minute does, and then the hour has that minute already.
  have minuteOver : next.ticks % 60 = 0 ↔ 60 ∣ n + 1 := rolled.over_iff counted 60
  have hourOver : next.ticks % 3600 = 0 ↔ 3600 ∣ n + 1 := rolled.over_iff counted 3600
  rw [ticked]
  by_cases minuteEnds : 60 ∣ n + 1
  · have minute : Traffic.zero = gain totals (begun 60 (n + 1)) (n + 1) := (gain_begun_succ totals minuteEnds).symm
    have minutes : push 24 meter.minutes (gain totals (begun 60 n) (n + 1)) = gains totals 60 24 (n + 1) := by
      rw [rolled.minutes, gains_succ totals (by decide) minuteEnds]
    by_cases hourEnds : 3600 ∣ n + 1
    · rw [endMinute, if_pos (minuteOver.mpr minuteEnds), endHour, if_pos (hourOver.mpr hourEnds)] at sampled ⊢
      refine ⟨sampled, rolled.ticks_succ counted, minute, minutes, ?_, ?_⟩
      · rw [begun_succ minuteEnds]
        exact (gain_begun_succ totals hourEnds).symm
      · rw [gains_succ totals (by decide) hourEnds, ← rolled.hours, ← inHour]
    · rw [endMinute, if_pos (minuteOver.mpr minuteEnds), endHour, if_neg (hourOver.not.mpr hourEnds)] at sampled ⊢
      refine ⟨sampled, rolled.ticks_succ counted, minute, minutes, ?_, ?_⟩
      · rw [begun_succ minuteEnds, begun_succ_of_not_dvd hourEnds]
        exact inHour
      · exact rolled.hours.trans (gains_succ_of_not_dvd totals hourEnds).symm
  · have hourGoes : ¬3600 ∣ n + 1 := fun ends => minuteEnds (Nat.dvd_trans (by decide) ends)
    rw [endMinute, if_neg (minuteOver.not.mpr minuteEnds)] at sampled ⊢
    refine ⟨sampled, rolled.ticks_succ counted, ?_, ?_, ?_, ?_⟩
    · rw [begun_succ_of_not_dvd minuteEnds]
    · exact rolled.minutes.trans (gains_succ_of_not_dvd totals minuteEnds).symm
    · rw [begun_succ_of_not_dvd minuteEnds, begun_succ_of_not_dvd hourGoes]
      exact rolled.hour
    · exact rolled.hours.trans (gains_succ_of_not_dvd totals hourGoes).symm

theorem Rolled.tick?_eq_some (rolled : Rolled totals n meter) (counted : n + 1 < 2 ^ 64) (grows : Grows totals (n + 1)) :
    meter.tick? (totals (n + 1)) = some (meter.tick (totals (n + 1))) :=
  Meter.tick?_eq_some (rolled.ticks ▸ counted) (rolled.inMinute grows) (rolled.inHour grows)
    ((congrArg Traffic.sum? rolled.push).trans (sum?_gains grows))

theorem after_sampled (start : totals 0 = .zero) (n : ℕ) : Sampled totals n (after totals n) := by
  induction n with
  | zero => exact ⟨start.symm, rfl⟩
  | succ n ih => exact ih.tick

theorem after_rolled (start : totals 0 = .zero) {n : ℕ} (counted : n < 2 ^ 64) (grows : Grows totals n) :
    Rolled totals n (after totals n) := by
  induction n with
  | zero =>
    have nothing : Traffic.zero = gain totals 0 0 := (Traffic.since_self _).symm
    exact ⟨after_sampled start 0, rfl, nothing, rfl, nothing, rfl⟩
  | succ n ih =>
    have earlier := ih (Nat.lt_of_succ_lt counted) grows.pred
    exact earlier.tick counted grows

end

/-- From totals that never fall, a tick tells exactly what has come since the tick before, and what has come over the last
sixty ticks or as many as there were. As long as the ticks themselves can be counted, 64 bits hold every sum on the way, and
the meter keeps exactly what came in each of the last 24 full minutes and of the last twelve full hours. -/
theorem tick_after (totals : ℕ → Traffic) (n : ℕ) (start : totals 0 = .zero) (grows : Grows totals (n + 1)) :
    let came first last := (totals last).counts - (totals first).counts
    let told := (after totals n).tick (totals (n + 1))
    told.1.lastSecond.counts = came n (n + 1) ∧ told.1.lastMinute.counts = came (n + 1 - 60) (n + 1) ∧
      (n + 1 < 2 ^ 64 → (after totals n).tick? (totals (n + 1)) = some told ∧
        told.2.minutes.map Traffic.counts =
          ((List.range ((n + 1) / 60)).map fun minute => came (minute * 60) ((minute + 1) * 60)).rtake 24 ∧
        told.2.hours.map Traffic.counts =
          ((List.range ((n + 1) / 3600)).map fun hour => came (hour * 3600) ((hour + 1) * 3600)).rtake 12) := by
  intro came told
  have figures : told.1 = _ := (after_sampled start n).told grows
  refine ⟨?_, ?_, fun counted => ?_⟩
  · rw [figures]
    exact Traffic.counts_since _ _
  · rw [figures]
    exact Traffic.counts_since _ _
  · have before := after_rolled start (Nat.lt_of_succ_lt counted) grows.pred
    have later : Rolled totals (n + 1) told.2 := before.tick counted grows
    refine ⟨before.tick?_eq_some counted grows, ?_, ?_⟩
    · rw [later.minutes, map_counts_gains]
    · rw [later.hours, map_counts_gains]

/-- All that can be read comes at the first tick and each tick sees one byte written: the sixtieth closes a minute of both. -/
theorem tick_after_limit :
    let totals : ℕ → Traffic := fun i => ⟨if i = 0 then 0 else 18446744073709551615, .ofNat i⟩
    let told := (after totals 59).tick (totals 60)
    told.1.lastSecond.counts = (0, 1) ∧ told.1.lastMinute.counts = (18446744073709551615, 60) ∧
      (after totals 59).tick? (totals 60) = some told ∧ told.2.minutes.map Traffic.counts = [(18446744073709551615, 60)] ∧
      told.2.hours.map Traffic.counts = [] := by
  intro totals told
  have grows : Grows totals (59 + 1) := by
    intro a _ b below ab
    have below : b ≤ 60 := below
    refine ⟨?_, ?_⟩
    · change (if a = 0 then (0 : UInt64) else _).toNat ≤ (if b = 0 then (0 : UInt64) else _).toNat
      by_cases none : a = 0
      · rw [if_pos none]
        exact Nat.zero_le _
      · rw [if_neg none, if_neg (by omega)]
    · change (UInt64.ofNat a).toNat ≤ (UInt64.ofNat b).toNat
      simp only [UInt64.toNat_ofNat']
      omega
  obtain ⟨second, minute, rest⟩ := tick_after totals 59 rfl grows
  obtain ⟨fits, minutes, hours⟩ := rest (by decide)
  exact ⟨second.trans (by decide), minute.trans (by decide), fits, minutes.trans (by decide), hours.trans (by decide)⟩

end Meter

end NatTraversal
