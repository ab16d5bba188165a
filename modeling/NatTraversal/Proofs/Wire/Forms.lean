import Mathlib.Algebra.Group.Nat.Defs
import Mathlib.Data.List.Induction
import NatTraversal.Address.Contact

namespace NatTraversal

namespace Bytes

theorem bigEndian_value (bytes : Bytes) : bigEndian bytes.length (value bytes) = bytes := by
  induction bytes using List.reverseRecOn with
  | nil => rfl
  | append_singleton bytes b ih =>
    have low : b.toNat < 256 := b.toNat_lt
    have high : (256 * value bytes + b.toNat) / 256 = value bytes := by omega
    have last : UInt8.ofNat (256 * value bytes + b.toNat) = b := by
      apply UInt8.toNat_inj.mp
      rw [UInt8.toNat_ofNat']
      omega
    rw [value_append_singleton, List.length_append, List.length_singleton, bigEndian, high, last, ih]

theorem value_lt (bytes : Bytes) : value bytes < 256 ^ bytes.length := by
  have whole := value_bigEndian bytes.length (value bytes)
  rw [bigEndian_value] at whole
  rw [whole]
  exact Nat.mod_lt _ (Nat.pow_pos (by decide))

end Bytes

namespace Utf8

theorem decode_eq_ok_iff {bytes : List UInt8} {text : String} : decode bytes = .ok text ↔ bytes = encode text := by
  unfold decode String.fromUTF8?
  by_cases valid : ByteArray.IsValidUTF8 ⟨bytes.toArray⟩
  · rw [dif_pos valid]
    simp only [Except.ok.injEq]
    constructor
    · rintro rfl
      simp [encode, String.fromUTF8]
    · rintro rfl
      simp [encode, String.fromUTF8]
  · rw [dif_neg valid]
    simp only [reduceCtorEq, false_iff]
    rintro rfl
    exact valid text.isValidUTF8

end Utf8

/-- Which byte strings stand for a value. -/
abbrev WireForm (α : Type) := α → Bytes → Prop

/-- Exactly what an encoder writes. -/
def WireForm.of {α : Type} (encode : α → Bytes) : WireForm α := fun a taken => taken = encode a

namespace Reader

variable {α β : Type}

/-- A reader takes the forms of its values off the head of a frame, all of them and nothing else. -/
def Reads (reader : Reader α) (form : WireForm α) : Prop :=
  ∀ frame a rest, reader frame = .ok (a, rest) ↔ ∃ taken, form a taken ∧ frame = taken ++ rest

theorem bind_eq_ok_iff {reader : Reader α} {next : α → Reader β} {frame rest : Bytes} {b : β} :
    (reader >>= next) frame = .ok (b, rest) ↔ ∃ a middle, reader frame = .ok (a, middle) ∧ next a middle = .ok (b, rest) := by
  show (reader frame).bind (fun result => next result.1 result.2) = .ok (b, rest) ↔ _
  cases reader frame with
  | error fault => simp [Except.bind]
  | ok result =>
    obtain ⟨a, middle⟩ := result
    simp [Except.bind]

theorem Reads.congr {reader : Reader α} {form other : WireForm α} (reads : Reads reader form)
    (same : ∀ a taken, form a taken ↔ other a taken) : Reads reader other := by
  intro frame a rest
  simp only [reads frame a rest, same]

theorem Reads.pure (a : α) : Reads (pure a) fun b taken => b = a ∧ taken = [] := by
  intro frame b rest
  show Except.ok (a, frame) = .ok (b, rest) ↔ _
  constructor
  · intro same
    cases same
    exact ⟨[], ⟨rfl, rfl⟩, rfl⟩
  · rintro ⟨_, ⟨rfl, rfl⟩, rfl⟩
    rfl

theorem Reads.fail (fault : Malformed) : Reads (fail fault : Reader α) fun _ _ => False := by
  intro frame a rest
  simp [Reader.fail]

theorem Reads.bind {reader : Reader α} {next : α → Reader β} {form : WireForm α} {others : α → WireForm β}
    (reads : Reads reader form) (continues : ∀ a, Reads (next a) (others a)) :
    Reads (reader >>= next) fun b taken => ∃ a head tail, form a head ∧ others a b tail ∧ taken = head ++ tail := by
  intro frame b rest
  simp only [bind_eq_ok_iff, reads frame, continues _ _ b rest]
  constructor
  · rintro ⟨a, _, ⟨head, stands, rfl⟩, tail, follows, rfl⟩
    exact ⟨head ++ tail, ⟨a, head, tail, stands, follows, rfl⟩, (List.append_assoc ..).symm⟩
  · rintro ⟨_, ⟨a, head, tail, stands, follows, rfl⟩, rfl⟩
    exact ⟨a, tail ++ rest, ⟨head, stands, List.append_assoc ..⟩, tail, follows, rfl⟩

/-- The same where the first part has one form only. -/
theorem Reads.then {reader : Reader α} {next : α → Reader β} {encode : α → Bytes} {others : α → WireForm β}
    (reads : Reads reader (.of encode)) (continues : ∀ a, Reads (next a) (others a)) :
    Reads (reader >>= next) fun b taken => ∃ a tail, others a b tail ∧ taken = encode a ++ tail := by
  refine (reads.bind continues).congr ?_
  intro b taken
  simp only [WireForm.of]
  constructor
  · rintro ⟨a, _, tail, rfl, follows, rfl⟩
    exact ⟨a, tail, follows, rfl⟩
  · rintro ⟨a, tail, follows, rfl⟩
    exact ⟨a, _, tail, rfl, follows, rfl⟩

theorem Reads.map {reader : Reader α} {form : WireForm α} (reads : Reads reader form) (f : α → β) :
    Reads (f <$> reader) fun b taken => ∃ a, form a taken ∧ b = f a := by
  refine (reads.bind fun a => Reads.pure (f a)).congr ?_
  intro b taken
  constructor
  · rintro ⟨a, head, _, stands, ⟨rfl, rfl⟩, rfl⟩
    exact ⟨a, by simpa using stands, rfl⟩
  · rintro ⟨a, stands, rfl⟩
    exact ⟨a, taken, [], stands, ⟨rfl, rfl⟩, (List.append_nil _).symm⟩

theorem Reads.run_eq_ok_iff {reader : Reader α} {form : WireForm α} (reads : Reads reader form) {frame : Bytes} {a : α} :
    reader.run frame = .ok a ↔ form a frame := by
  have whole := reads frame a []
  simp only [List.append_nil, exists_eq_right'] at whole
  rw [← whole]
  unfold Reader.run
  split
  · rename_i fault failed
    simp [failed]
  · rename_i b success
    simp [success]
  · rename_i b rest left success
    have different : rest ≠ [] := by
      intro empty
      exact left empty
    simp [success, different]

/-- What a reader takes whole it does not take with more behind it. -/
theorem Reads.prefix_free {reader : Reader α} {form : WireForm α} (reads : Reads reader form) {a b : α}
    {taken rest : Bytes} (short : form a taken) (long : form b (taken ++ rest)) : rest = [] := by
  have first : reader (taken ++ rest) = .ok (a, rest) := (reads _ _ _).mpr ⟨taken, short, rfl⟩
  have second : reader (taken ++ rest) = .ok (b, []) := (reads _ _ _).mpr ⟨_, long, (List.append_nil _).symm⟩
  cases first.symm.trans second
  rfl

theorem bytes_reads (count : Nat) : Reads (bytes count) fun a taken => a.length = count ∧ taken = a := by
  intro frame a rest
  unfold bytes
  split
  · rename_i short
    simp only [reduceCtorEq, false_iff]
    rintro ⟨taken, ⟨length, rfl⟩, rfl⟩
    rw [List.length_append] at short
    omega
  · rename_i long
    simp only [Except.ok.injEq, Prod.mk.injEq]
    constructor
    · rintro ⟨rfl, rfl⟩
      exact ⟨_, ⟨by rw [List.length_take]; omega, rfl⟩, (List.take_append_drop count frame).symm⟩
    · rintro ⟨taken, ⟨rfl, rfl⟩, rfl⟩
      exact ⟨List.take_left, List.drop_left⟩

theorem u8_reads : Reads u8 (.of fun b => [b]) := by
  intro frame b rest
  cases frame with
  | nil => simp [u8, WireForm.of]
  | cons c frame => simp [u8, WireForm.of]

/-- A number in as many bytes as its type has. -/
theorem number_reads {ofNat : Nat → α} {toNat : α → Nat} (count : Nat) (left : ∀ a, ofNat (toNat a) = a)
    (right : ∀ n, n < 256 ^ count → toNat (ofNat n) = n) (bounded : ∀ a, toNat a < 256 ^ count) :
    Reads ((fun taken => ofNat (Bytes.value taken)) <$> bytes count) (.of fun a => Bytes.bigEndian count (toNat a)) := by
  refine ((bytes_reads count).map _).congr ?_
  intro a taken
  constructor
  · rintro ⟨taken, ⟨rfl, rfl⟩, rfl⟩
    show taken = Bytes.bigEndian taken.length (toNat (ofNat (Bytes.value taken)))
    rw [right _ (Bytes.value_lt taken), Bytes.bigEndian_value]
  · rintro rfl
    refine ⟨_, ⟨Bytes.bigEndian_length .., rfl⟩, ?_⟩
    have small : toNat a % Nat.pow 256 count = toNat a := Nat.mod_eq_of_lt (bounded a)
    rw [Bytes.value_bigEndian, small, left]

theorem u16_reads : Reads u16 (.of Bytes.u16) :=
  number_reads 2 (fun _ => UInt16.ofNat_toNat) (fun _ small => UInt16.toNat_ofNat_of_lt small) UInt16.toNat_lt

theorem u32_reads : Reads u32 (.of Bytes.u32) :=
  number_reads 4 (fun _ => UInt32.ofNat_toNat) (fun _ small => UInt32.toNat_ofNat_of_lt small) UInt32.toNat_lt

theorem u64_reads : Reads u64 (.of Bytes.u64) :=
  number_reads 8 (fun _ => UInt64.ofNat_toNat) (fun _ small => UInt64.toNat_ofNat_of_lt small) UInt64.toNat_lt

theorem flag_reads : Reads flag (.of Bytes.flag) := by
  refine (u8_reads.bind fun b => show Reads _ fun value taken => b = (if value then 1 else 0) ∧ taken = [] from ?_).congr ?_
  · split
    · exact (Reads.pure false).congr (by simp)
    · exact (Reads.pure true).congr (by simp)
    · rename_i notZero notOne
      refine (Reads.fail _).congr ?_
      intro value taken
      cases value with
      | false => simpa using fun zero => absurd zero notZero
      | true => simpa using fun one => absurd one notOne
  · intro value taken
    simp [WireForm.of, Bytes.flag]

theorem coded_reads {what : Code} {ofCode? : UInt8 → Option α} {code : α → UInt8}
    (inverse : ∀ {c a}, ofCode? c = some a ↔ c = code a) : Reads (coded what ofCode?) (.of fun a => [code a]) := by
  refine (u8_reads.bind fun c => show Reads _ fun a taken => c = code a ∧ taken = [] from ?_).congr ?_
  · cases found : ofCode? c with
    | some b =>
      refine (Reads.pure b).congr ?_
      intro a taken
      rw [← inverse, found, Option.some.injEq, eq_comm]
    | none =>
      refine (Reads.fail _).congr ?_
      intro a taken
      rw [← inverse, found]
      simp
  · intro a taken
    simp [WireForm.of]

theorem times_reads {item : Reader α} {encode : α → Bytes} (reads : Reads item (.of encode)) (count : Nat) :
    Reads (times item count) fun list taken => list.length = count ∧ taken = list.flatMap encode := by
  induction count with
  | zero =>
    refine (Reads.pure []).congr ?_
    intro list taken
    rw [List.length_eq_zero_iff]
    constructor <;> rintro ⟨rfl, rfl⟩ <;> simp
  | succ count ih =>
    refine (reads.then fun a => ih.bind fun rest => Reads.pure (a :: rest)).congr ?_
    intro list taken
    constructor
    · rintro ⟨a, _, ⟨rest, _, _, ⟨rfl, rfl⟩, ⟨rfl, rfl⟩, rfl⟩, rfl⟩
      simp
    · rintro ⟨length, rfl⟩
      obtain ⟨a, rest, rfl⟩ := List.exists_cons_of_length_eq_add_one length
      exact ⟨a, _, ⟨rest, _, [], ⟨by simpa using length, rfl⟩, ⟨rfl, rfl⟩, rfl⟩, by simp⟩

/-- What stands behind a length in one byte. -/
theorem counted_reads {body : Nat → Reader α} {size : α → Nat} {encode : α → Bytes}
    (reads : ∀ count, Reads (body count) fun a taken => size a = count ∧ taken = encode a) :
    Reads (u8 >>= fun count => body count.toNat) fun a taken => size a ≤ 255 ∧ taken = UInt8.ofNat (size a) :: encode a := by
  refine (u8_reads.then fun count => reads count.toNat).congr ?_
  intro a taken
  constructor
  · rintro ⟨count, _, ⟨same, rfl⟩, rfl⟩
    have bound := count.toNat_lt
    exact ⟨by omega, by simp [same]⟩
  · rintro ⟨bound, rfl⟩
    refine ⟨.ofNat (size a), _, ⟨?_, rfl⟩, rfl⟩
    rw [UInt8.toNat_ofNat_of_lt' (by omega : size a < 256)]

theorem list_reads {item : Reader α} {encode : α → Bytes} (reads : Reads item (.of encode)) :
    Reads (list item) fun list taken => list.length ≤ 255 ∧ taken = UInt8.ofNat list.length :: list.flatMap encode :=
  counted_reads (times_reads reads)

theorem string_reads :
    Reads string fun text taken =>
      (Utf8.encode text).length ≤ 255 ∧ taken = UInt8.ofNat (Utf8.encode text).length :: Utf8.encode text := by
  refine counted_reads fun count => ((bytes_reads count).bind fun raw =>
    show Reads _ fun text taken => raw = Utf8.encode text ∧ taken = [] from ?_).congr ?_
  · cases decoded : Utf8.decode raw with
    | ok text =>
      refine (Reads.pure text).congr ?_
      intro other taken
      rw [← Utf8.decode_eq_ok_iff, decoded, Except.ok.injEq, eq_comm]
    | error fault =>
      refine (Reads.fail _).congr ?_
      intro other taken
      rw [← Utf8.decode_eq_ok_iff, decoded]
      simp
  · intro text taken
    constructor
    · rintro ⟨raw, _, _, ⟨length, rfl⟩, ⟨rfl, rfl⟩, rfl⟩
      exact ⟨length, List.append_nil _⟩
    · rintro ⟨length, rfl⟩
      exact ⟨_, _, [], ⟨length, rfl⟩, ⟨rfl, rfl⟩, (List.append_nil _).symm⟩

end Reader

end NatTraversal
