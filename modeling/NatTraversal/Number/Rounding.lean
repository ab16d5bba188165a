namespace NatTraversal

/-- The natural number nearest to `num / den`; halfway between two, the even one. -/
def roundToEven (num den : Nat) : Nat :=
  let low := num / den
  let rest := 2 * (num % den)
  if rest < den ∨ (rest = den ∧ low % 2 = 0) then low else low + 1

/-- The natural number nearest to `num / den`; halfway between two, the upper one. -/
def roundUp (num den : Nat) : Nat :=
  let low := num / den
  if 2 * (num % den) < den then low else low + 1

theorem roundToEven_one (num : Nat) : roundToEven num 1 = num := by
  simp [roundToEven, Nat.mod_one]

/-- Rounding never moves a number by more than a half. -/
theorem roundToEven_near {num den : Nat} (pos : 0 < den) :
    2 * num ≤ 2 * (roundToEven num den * den) + den ∧ 2 * (roundToEven num den * den) ≤ 2 * num + den := by
  have split := Nat.div_add_mod num den
  have small := Nat.mod_lt num pos
  rw [Nat.mul_comm] at split
  unfold roundToEven
  generalize num / den = low at *
  generalize num % den = rest at *
  dsimp only
  split
  · omega
  · rw [Nat.add_mul]; omega

end NatTraversal
