namespace NatTraversal

abbrev Bytes := List UInt8

namespace Bytes

/-- The lowest `width` bytes of a number, most significant first. -/
def bigEndian : Nat → Nat → Bytes
  | 0, _ => []
  | width + 1, n => bigEndian width (n / 256) ++ [UInt8.ofNat n]

/-- The number whose bytes these are, most significant first. -/
def value (bytes : Bytes) : Nat := bytes.foldl (fun n b => 256 * n + b.toNat) 0

def u16 (n : UInt16) : Bytes := bigEndian 2 n.toNat

def u32 (n : UInt32) : Bytes := bigEndian 4 n.toNat

def u64 (n : UInt64) : Bytes := bigEndian 8 n.toNat

def flag (b : Bool) : Bytes := [if b then 1 else 0]

@[simp] theorem bigEndian_length (width n : Nat) : (bigEndian width n).length = width := by
  induction width generalizing n with
  | zero => rfl
  | succ width ih => simp [bigEndian, ih]

theorem value_append_singleton (bytes : Bytes) (b : UInt8) : value (bytes ++ [b]) = 256 * value bytes + b.toNat := by
  simp [value]

theorem value_bigEndian (width n : Nat) : value (bigEndian width n) = n % Nat.pow 256 width := by
  induction width generalizing n with
  | zero => simp [bigEndian, value, Nat.mod_one]
  | succ width ih =>
    have next : Nat.pow 256 (width + 1) = 256 * Nat.pow 256 width := Nat.mul_comm _ _
    have last : (UInt8.ofNat n).toNat = n % 256 := by simp
    rw [bigEndian, value_append_singleton, ih, next, last, Nat.mod_mul, Nat.add_comm]

end Bytes

end NatTraversal
