import NatTraversal.Number.Binary64

namespace NatTraversal

/- Instants and spans of time are natural numbers of nanoseconds. -/

namespace Time

def second : Nat := 1000000000

def millisecond : Nat := 1000000

def ofMillis (ms : Nat) : Nat := ms * millisecond

/-- Whole milliseconds that have passed. -/
def toMillis (t : Nat) : Nat := t / millisecond

/-- The first whole millisecond not before `t`. -/
def ceilMillis (t : Nat) : Nat := (t + (millisecond - 1)) / millisecond * millisecond

/-- The seconds as hardware has them: the whole seconds, the quotient of the rest and their sum are rounded. -/
def seconds (t : Nat) : Binary64 := (Binary64.ofNat (t / second)).add ((Binary64.ofNat (t % second)).div (.ofNat second))

/-- The nearest nanosecond to a number of seconds, halfway the even one. Nothing for a negative number, for no number,
and from `2 ^ 64` seconds on. -/
def ofSeconds? : Binary64 → Option Nat
  | .nan => none
  | .infinite _ => none
  | .finite s m e =>
    if s && m != 0 then none
    else
      let (num, den) := Binary64.fraction m e
      if num ≥ Nat.pow 2 64 * den then none else some (roundToEven (num * second) den)

def scale? (t : Nat) (factor : Binary64) : Option Nat := ofSeconds? (factor.mul (seconds t))

theorem le_ceilMillis (t : Nat) : t ≤ ceilMillis t := by
  unfold ceilMillis millisecond
  omega

theorem ceilMillis_lt (t : Nat) : ceilMillis t < t + millisecond := by
  unfold ceilMillis millisecond
  omega

theorem ceilMillis_le_iff (t last : Nat) : ceilMillis t ≤ last ↔ t ≤ ofMillis (toMillis last) := by
  unfold ceilMillis ofMillis toMillis millisecond
  omega

theorem ceilMillis_mono {t later : Nat} (le : t ≤ later) : ceilMillis t ≤ ceilMillis later := by
  unfold ceilMillis millisecond
  omega

theorem ceilMillis_eq_self {t : Nat} (whole : millisecond ∣ t) : ceilMillis t = t := by
  obtain ⟨count, rfl⟩ := whole
  unfold ceilMillis millisecond
  omega

end Time

end NatTraversal
