import NatTraversal.Chance

namespace NatTraversal

/-- Whether a ticket is one of the draws from the number `first` on and before `last`. -/
def Chance.Draws (chance : Chance) (first last : Nat) (id : Ticket) : Prop := ∃ n, first ≤ n ∧ n < last ∧ id = chance.ticket n

theorem Chance.Draws.mono {chance : Chance} {first last earlier later : Nat} {id : Ticket} (draws : chance.Draws first last id)
    (early : earlier ≤ first) (late : last ≤ later) : chance.Draws earlier later id := by
  obtain ⟨n, above, below, same⟩ := draws
  exact ⟨n, by omega, by omega, same⟩

/-- What is drawn by now and is not the last draw has been drawn before. -/
theorem Chance.Draws.earlier {chance : Chance} {first count : Nat} {id : Ticket} (draws : chance.Draws first (count + 1) id)
    (other : id ≠ chance.ticket count) : chance.Draws first count id := by
  obtain ⟨n, above, below, same⟩ := draws
  have apart : n ≠ count := by
    rintro rfl
    exact other same
  exact ⟨n, above, by omega, same⟩

/-- Whether so many draws give so many tickets. -/
def Chance.Distinct (chance : Chance) (count : Nat) : Prop :=
  ∀ m n, m < count → n < count → chance.ticket m = chance.ticket n → m = n

theorem Chance.Distinct.mono {chance : Chance} {fewer more : Nat} (distinct : chance.Distinct more) (less : fewer ≤ more) :
    chance.Distinct fewer :=
  fun m n first second => distinct m n (by omega) (by omega)

theorem Chance.port_ne_zero (chance : Chance) (n : Nat) : chance.port n ≠ 0 := by
  intro zero
  have least := chance.port_ephemeral n
  rw [zero] at least
  exact absurd least (by decide)

/-- Draws that never meet those of another strand, and one port over and over. -/
def Chance.counting (strand : Nat) : Chance where
  ticket n := ⟨.ofNat (2 * (2 * n + strand) + 1)⟩
  shuffle _ list := list
  port _ := firstEphemeralPort
  ticket_isNone n := by
    have odd : (UInt64.ofNat (2 * (2 * n + strand) + 1)).toNat ≠ 0 := by
      rw [UInt64.toNat_ofNat']
      omega
    rw [Ticket.isNone, beq_eq_false_iff_ne]
    intro zero
    exact odd (congrArg UInt64.toNat zero)
  shuffle_perm _ list := .refl list
  port_ephemeral _ := UInt16.le_refl _

theorem Chance.counting_distinct {strand count : Nat} (few : 2 * (2 * count + strand) < UInt64.size) :
    (counting strand).Distinct count := by
  intro m n first second same
  have numbers := congrArg (fun id : Ticket => id.value.toNat) same
  simp only [counting, UInt64.toNat_ofNat'] at numbers
  rw [UInt64.size] at few
  omega

end NatTraversal
