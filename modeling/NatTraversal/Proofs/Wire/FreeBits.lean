import Mathlib.Data.List.Basic
import NatTraversal.Proofs.Wire.Forms

namespace NatTraversal

/-- The byte strings have one length, and two bytes at one place differ at most in the free bits of that place. -/
def SameBut (free : Nat → UInt8) (written taken : Bytes) : Prop :=
  written.length = taken.length ∧
    ∀ (i : Nat) (a b : UInt8), written[i]? = some a → taken[i]? = some b → a &&& ~~~free i = b &&& ~~~free i

namespace SameBut

variable {free other : Nat → UInt8} {written taken : Bytes}

theorem refl (free : Nat → UInt8) (written : Bytes) : SameBut free written written := by
  refine ⟨rfl, ?_⟩
  intro i a b atA atB
  rw [atA, Option.some.injEq] at atB
  rw [atB]

theorem symm (same : SameBut free written taken) : SameBut free taken written :=
  ⟨same.1.symm, fun i a b atA atB => (same.2 i b a atB atA).symm⟩

theorem trans {last : Bytes} (same : SameBut free written taken) (next : SameBut free taken last) :
    SameBut free written last := by
  refine ⟨same.1.trans next.1, ?_⟩
  intro i a c atA atC
  have inside : i < taken.length := by
    rw [← same.1]
    exact (List.getElem?_eq_some_iff.mp atA).choose
  have atB := List.getElem?_eq_getElem inside
  exact (same.2 i a _ atA atB).trans (next.2 i _ c atB atC)

theorem nil_iff : SameBut free [] taken ↔ taken = [] := by
  constructor
  · intro same
    exact List.length_eq_zero_iff.mp same.1.symm
  · rintro rfl
    exact refl free []

theorem cons_iff {a b : UInt8} : SameBut free (a :: written) (b :: taken) ↔
    a &&& ~~~free 0 = b &&& ~~~free 0 ∧ SameBut (fun i => free (i + 1)) written taken := by
  constructor
  · rintro ⟨length, bits⟩
    exact ⟨bits 0 a b rfl rfl, Nat.succ.inj length, fun i => bits (i + 1)⟩
  · rintro ⟨first, length, bits⟩
    refine ⟨congrArg (· + 1) length, ?_⟩
    rintro (_ | i) c d atC atD
    · cases atC
      cases atD
      exact first
    · exact bits i c d atC atD

theorem exists_cons {a : UInt8} (same : SameBut free (a :: written) taken) : ∃ b rest, taken = b :: rest :=
  List.exists_cons_of_length_eq_add_one same.1.symm

theorem append_iff {before after : Bytes} : SameBut free (before ++ after) taken ↔
    ∃ head tail, SameBut free before head ∧ SameBut (fun i => free (before.length + i)) after tail ∧ taken = head ++ tail := by
  induction before generalizing free taken with
  | nil =>
    simp only [List.nil_append, List.length_nil, Nat.zero_add]
    constructor
    · intro same
      exact ⟨[], taken, refl free [], same, rfl⟩
    · rintro ⟨head, tail, empty, same, rfl⟩
      rw [nil_iff.mp empty]
      exact same
  | cons a before ih =>
    have shifted : (fun i => free (before.length + i + 1)) = fun i => free ((a :: before).length + i) := by
      funext i
      rw [List.length_cons, Nat.add_right_comm]
    constructor
    · intro same
      obtain ⟨b, rest, rfl⟩ := exists_cons same
      rw [List.cons_append, cons_iff, ih, shifted] at same
      obtain ⟨first, head, tail, front, back, rfl⟩ := same
      exact ⟨b :: head, tail, cons_iff.mpr ⟨first, front⟩, back, rfl⟩
    · rintro ⟨head, tail, front, back, rfl⟩
      obtain ⟨b, head, rfl⟩ := exists_cons front
      rw [cons_iff] at front
      rw [List.cons_append, List.cons_append, cons_iff, ih, shifted]
      exact ⟨front.1, head, tail, front.2, back, rfl⟩

theorem congr (agree : ∀ i, i < written.length → free i = other i) :
    SameBut free written taken ↔ SameBut other written taken := by
  unfold SameBut
  refine and_congr_right fun _ => forall_congr' fun i => forall_congr' fun a => forall_congr' fun b => ?_
  refine imp_congr_right fun atA => ?_
  rw [agree i (List.getElem?_eq_some_iff.mp atA).choose]

/-- Nothing is free where no bit is. -/
theorem iff_eq (fixed : ∀ i, i < written.length → free i = 0) : SameBut free written taken ↔ taken = written := by
  rw [congr fixed]
  constructor
  · rintro ⟨length, bits⟩
    refine (List.ext_getElem length ?_).symm
    intro i inside within
    have same := bits i _ _ (List.getElem?_eq_getElem inside) (List.getElem?_eq_getElem within)
    simpa using same
  · rintro rfl
    exact refl _ _

/-- Free bits of what follows `width` bytes that have none. -/
def after (width : Nat) (free : Nat → UInt8) (i : Nat) : UInt8 := if i < width then 0 else free (i - width)

theorem after_append_iff {before rest : Bytes} {width : Nat} (length : before.length = width) :
    SameBut (after width free) (before ++ rest) taken ↔ ∃ tail, SameBut free rest tail ∧ taken = before ++ tail := by
  subst length
  have fixed : ∀ i, i < before.length → after before.length free i = 0 := fun i inside => if_pos inside
  have moved : (fun i => after before.length free (before.length + i)) = free := by
    funext i
    rw [after, if_neg (by omega), Nat.add_sub_cancel_left]
  simp only [append_iff, iff_eq fixed, moved]
  constructor
  · rintro ⟨_, tail, rfl, same, rfl⟩
    exact ⟨tail, same, rfl⟩
  · rintro ⟨tail, same, rfl⟩
    exact ⟨before, tail, rfl, same, rfl⟩

theorem append_fixed_iff {before rest : Bytes} (fixed : ∀ i, before.length ≤ i → free i = 0) :
    SameBut free (before ++ rest) taken ↔ ∃ head, SameBut free before head ∧ taken = head ++ rest := by
  have still : ∀ i, i < rest.length → free (before.length + i) = 0 := fun i _ => fixed _ (Nat.le_add_right ..)
  simp only [append_iff, iff_eq still]
  constructor
  · rintro ⟨head, _, same, rfl, rfl⟩
    exact ⟨head, same, rfl⟩
  · rintro ⟨head, same, rfl⟩
    exact ⟨head, rest, same, rfl, rfl⟩

end SameBut

/-- What an encoder writes, up to the free bits of what is written. -/
def WireForm.upTo {α : Type} (encode : α → Except Oversize Bytes) (free : α → Nat → UInt8) : WireForm α := fun a taken =>
  ∃ written, encode a = .ok written ∧ SameBut (free a) written taken

namespace NatType

/-- The bits of a description's wire form that no reader looks at, by byte: the upper six of the flags, and both bytes
of the mapped port where there is none. -/
def freeBits (nat : NatType) (i : Nat) : UInt8 :=
  if i = 0 then 0xFC
  else if (i = 10 ∨ i = 11) ∧ nat.upnpPort = none then 0xFF
  else 0

theorem freeBits_beyond (nat : NatType) {i : Nat} (beyond : wireLength ≤ i) : nat.freeBits i = 0 := by
  unfold wireLength at beyond
  simp only [freeBits]
  rw [if_neg (by omega), if_neg (by omega)]

/-- The two lower bits of the flags are what is read. -/
theorem flags_same_iff {nat : NatType} {flags : UInt8} : nat.flags &&& ~~~0xFC = flags &&& ~~~0xFC ↔
    (flags % 2 == 1) = nat.isOpen ∧ (flags / 2 % 2 == 1) = nat.upnpPort.isSome := by
  have table : ∀ opened mapped : Bool, ∀ n, n < 256 →
      ((((if opened then 1 else 0) + (if mapped then 2 else 0) : UInt8) &&& ~~~0xFC = UInt8.ofNat n &&& ~~~0xFC) ↔
        (UInt8.ofNat n % 2 == 1) = opened ∧ (UInt8.ofNat n / 2 % 2 == 1) = mapped) := by
    decide +kernel
  have atFlags := table nat.isOpen nat.upnpPort.isSome flags.toNat flags.toNat_lt
  rw [UInt8.ofNat_toNat] at atFlags
  exact atFlags

theorem known_bind_eq_ok_iff {α β : Type} {field : Field} {value : UInt8} {found : Option α}
    {next : α → Except Malformed β} {b : β} :
    (known field value found >>= next) = .ok b ↔ ∃ a, found = some a ∧ next a = .ok b := by
  cases found with
  | none => simp [known, bind, Except.bind]
  | some a => simp [known, bind, Except.bind]

theorem sameBut_head_iff {nat : NatType} {taken : Bytes} :
    SameBut nat.freeBits [nat.flags, nat.mapping.code, nat.allocation.code, nat.filtering.code, nat.technique.code, nat.delta]
      taken ↔
    ∃ flags, nat.flags &&& ~~~0xFC = flags &&& ~~~0xFC ∧
      taken = [flags, nat.mapping.code, nat.allocation.code, nat.filtering.code, nat.technique.code, nat.delta] := by
  have fixed : ∀ i, i < [nat.mapping.code, nat.allocation.code, nat.filtering.code, nat.technique.code, nat.delta].length →
      nat.freeBits (i + 1) = 0 := by
    intro i inside
    change i < 5 at inside
    simp only [freeBits]
    rw [if_neg (by omega), if_neg (by omega)]
  constructor
  · intro same
    obtain ⟨flags, rest, rfl⟩ := same.exists_cons
    rw [SameBut.cons_iff, SameBut.iff_eq fixed] at same
    exact ⟨flags, same.1, by rw [same.2]⟩
  · rintro ⟨flags, same, rfl⟩
    rw [SameBut.cons_iff, SameBut.iff_eq fixed]
    exact ⟨same, rfl⟩

theorem sameBut_port_iff {nat : NatType} {taken : Bytes} :
    SameBut (fun i => nat.freeBits (10 + i)) (Bytes.u16 (nat.upnpPort.getD 0)) taken ↔
      taken.length = 2 ∧ ∀ port, nat.upnpPort = some port → taken = Bytes.u16 port := by
  have width (port : UInt16) : (Bytes.u16 port).length = 2 := Bytes.bigEndian_length ..
  cases mapped : nat.upnpPort with
  | none =>
    have free : ∀ i, i < 2 → nat.freeBits (10 + i) = 0xFF := by
      intro i inside
      simp only [freeBits, mapped]
      rw [if_neg (by omega), if_pos ⟨by omega, trivial⟩]
    constructor
    · intro same
      exact ⟨by rw [← same.1, width], by simp⟩
    · rintro ⟨length, _⟩
      refine ⟨by rw [width, length], ?_⟩
      intro i a b atA _
      have inside := (List.getElem?_eq_some_iff.mp atA).choose
      rw [width] at inside
      have nothing : (~~~0xFF : UInt8) = 0 := rfl
      show a &&& ~~~nat.freeBits (10 + i) = b &&& ~~~nat.freeBits (10 + i)
      rw [free i inside, nothing, UInt8.and_zero, UInt8.and_zero]
  | some port =>
    rw [SameBut.iff_eq (by simp [freeBits, mapped])]
    constructor
    · rintro rfl
      exact ⟨width port, fun other same => by cases same; rfl⟩
    · rintro ⟨_, same⟩
      exact same port rfl

theorem sameBut_encode_iff {nat : NatType} {taken : Bytes} : SameBut nat.freeBits nat.encode taken ↔
    ∃ flags p1 p0, nat.flags &&& ~~~0xFC = flags &&& ~~~0xFC ∧ (∀ port, nat.upnpPort = some port → [p1, p0] = Bytes.u16 port) ∧
      taken = [flags, nat.mapping.code, nat.allocation.code, nat.filtering.code, nat.technique.code, nat.delta] ++
        Bytes.u32 nat.bindingTimeout ++ [p1, p0] := by
  have fixed : ∀ i, i < (Bytes.u32 nat.bindingTimeout).length → nat.freeBits (6 + i) = 0 := by
    intro i inside
    rw [Bytes.u32, Bytes.bigEndian_length] at inside
    simp only [freeBits]
    rw [if_neg (by omega), if_neg (by omega)]
  have width : ([nat.flags, nat.mapping.code, nat.allocation.code, nat.filtering.code, nat.technique.code, nat.delta] ++
      Bytes.u32 nat.bindingTimeout).length = 10 := rfl
  unfold encode
  simp only [SameBut.append_iff, sameBut_head_iff, width, List.length_cons, List.length_nil, Nat.reduceAdd,
    SameBut.iff_eq fixed, sameBut_port_iff]
  constructor
  · rintro ⟨_, tail, ⟨_, _, ⟨flags, same, rfl⟩, rfl, rfl⟩, ⟨length, port⟩, rfl⟩
    obtain ⟨p1, p0, rfl⟩ := List.length_eq_two.mp length
    exact ⟨flags, p1, p0, same, port, rfl⟩
  · rintro ⟨flags, p1, p0, same, port, rfl⟩
    exact ⟨_, [p1, p0], ⟨_, _, ⟨flags, same, rfl⟩, rfl, rfl⟩, ⟨rfl, port⟩, rfl⟩

theorem u16_ofNat_value (p1 p0 : UInt8) : Bytes.u16 (.ofNat (Bytes.value [p1, p0])) = [p1, p0] := by
  have small : Bytes.value [p1, p0] < 256 ^ 2 := Bytes.value_lt [p1, p0]
  rw [Bytes.u16, UInt16.toNat_ofNat_of_lt' small]
  exact Bytes.bigEndian_value [p1, p0]

theorem u32_ofNat_value (t3 t2 t1 t0 : UInt8) : Bytes.u32 (.ofNat (Bytes.value [t3, t2, t1, t0])) = [t3, t2, t1, t0] := by
  have small : Bytes.value [t3, t2, t1, t0] < 256 ^ 4 := Bytes.value_lt [t3, t2, t1, t0]
  rw [Bytes.u32, UInt32.toNat_ofNat_of_lt' small]
  exact Bytes.bigEndian_value [t3, t2, t1, t0]

theorem ofNat_value_u16 (n : UInt16) : .ofNat (Bytes.value (Bytes.u16 n)) = n := by
  have small : n.toNat % Nat.pow 256 2 = n.toNat := Nat.mod_eq_of_lt n.toNat_lt
  rw [Bytes.u16, Bytes.value_bigEndian, small, UInt16.ofNat_toNat]

theorem ofNat_value_u32 (n : UInt32) : .ofNat (Bytes.value (Bytes.u32 n)) = n := by
  have small : n.toNat % Nat.pow 256 4 = n.toNat := Nat.mod_eq_of_lt n.toNat_lt
  rw [Bytes.u32, Bytes.value_bigEndian, small, UInt32.ofNat_toNat]

theorem decode_eq_ok_iff {frame rest : Bytes} {nat : NatType} :
    decode frame = .ok (nat, rest) ↔ ∃ taken, SameBut nat.freeBits nat.encode taken ∧ frame = taken ++ rest := by
  simp only [sameBut_encode_iff]
  constructor
  · intro success
    unfold decode at success
    split at success
    · rename_i flags m a f t delta t3 t2 t1 t0 p1 p0 rest
      simp only [known_bind_eq_ok_iff, Dependence.ofCode?_eq_some_iff, Allocation.ofCode?_eq_some_iff,
        Technique.ofCode?_eq_some_iff] at success
      obtain ⟨mapping, rfl, allocation, rfl, filtering, rfl, technique, rfl, same⟩ := success
      cases same
      refine ⟨_, ⟨flags, p1, p0, flags_same_iff.mpr ⟨rfl, ?_⟩, ?_, rfl⟩, ?_⟩
      · cases mapped : flags / 2 % 2 == 1 <;> rfl
      · intro port mapped
        dsimp only at mapped
        split at mapped
        · cases mapped
          exact (u16_ofNat_value p1 p0).symm
        · cases mapped
      · simp only [u32_ofNat_value, List.cons_append, List.nil_append]
    · cases success
  · rintro ⟨_, ⟨flags, p1, p0, same, port, rfl⟩, rfl⟩
    obtain ⟨opened, mapped⟩ := flags_same_iff.mp same
    obtain ⟨t3, t2, t1, t0, timeout⟩ : ∃ t3 t2 t1 t0, Bytes.u32 nat.bindingTimeout = [t3, t2, t1, t0] := ⟨_, _, _, _, rfl⟩
    have timeoutBack := ofNat_value_u32 nat.bindingTimeout
    rw [timeout] at timeoutBack ⊢
    have portBack : (if flags / 2 % 2 == 1 then some (UInt16.ofNat (Bytes.value [p1, p0])) else none) = nat.upnpPort := by
      rw [mapped]
      cases known : nat.upnpPort with
      | none => rfl
      | some number => simp [port number known, ofNat_value_u16]
    simp only [List.cons_append, List.nil_append, decode, known_bind_eq_ok_iff, Dependence.ofCode?_eq_some_iff,
      Allocation.ofCode?_eq_some_iff, Technique.ofCode?_eq_some_iff]
    refine ⟨_, rfl, _, rfl, _, rfl, _, rfl, ?_⟩
    rw [opened, portBack, timeoutBack]
    rfl

end NatType

theorem Reader.nat_reads : Reads nat fun nat taken => SameBut nat.freeBits nat.encode taken := by
  intro frame a rest
  rw [← NatType.decode_eq_ok_iff]
  unfold Reader.nat
  cases NatType.decode frame with
  | ok result => simp
  | error fault => simp

end NatTraversal
