import NatTraversal.Proofs.Wire.FreeBits

namespace NatTraversal

/-- One look at the head of a frame: so many bytes at once, or a translator's description, which is measured by its own
reader. -/
inductive Take where
  | bytes (count : Nat)
  | nat
deriving DecidableEq, Repr

namespace Take

def length : Take → Nat
  | bytes count => count
  | nat => NatType.wireLength

/-- What is said of a take that finds only `left` bytes. -/
def short : Take → Nat → Malformed
  | bytes count, left => .truncated count left
  | nat, left => .nat (.truncated NatType.wireLength left)

def total : List Take → Nat
  | [] => 0
  | take :: takes => take.length + total takes

/-- Of `n` bytes, `left` are there for the take that is the first not to fit. -/
def FirstShort (takes : List Take) (n : Nat) (take : Take) (left : Nat) : Prop :=
  ∃ before later, takes = before ++ take :: later ∧ n = total before + left ∧ left < take.length

@[simp] theorem total_nil : total [] = 0 := rfl

@[simp] theorem total_cons (take : Take) (takes : List Take) : total (take :: takes) = take.length + total takes := rfl

@[simp] theorem total_append (takes others : List Take) : total (takes ++ others) = total takes + total others := by
  induction takes with
  | nil => simp
  | cons take takes ih => simp [ih, Nat.add_assoc]

variable {takes others : List Take} {take : Take} {n left : Nat}

theorem not_firstShort_nil : ¬ FirstShort [] n take left := by
  rintro ⟨before, later, same, _⟩
  simp at same

theorem firstShort_singleton {only : Take} (short : FirstShort [only] n take left) : take = only ∧ n = left ∧ left < only.length := by
  obtain ⟨before, later, same, count, lacks⟩ := short
  cases before with
  | nil =>
    cases same
    exact ⟨rfl, by simpa using count, lacks⟩
  | cons first before => simp at same

/-- What is too short for two lists of takes, one after the other, is too short for the first, or for the second with what the
first leaves. -/
theorem FirstShort.of_append (short : FirstShort (takes ++ others) n take left) :
    FirstShort takes n take left ∨ ∃ more, n = total takes + more ∧ FirstShort others more take left := by
  obtain ⟨before, later, same, rfl, lacks⟩ := short
  rcases List.append_eq_append_iff.mp same with ⟨between, rfl, rfl⟩ | ⟨between, rfl, rest⟩
  · exact .inr ⟨total between + left, by simp [Nat.add_assoc], between, later, rfl, rfl, lacks⟩
  · cases between with
    | nil => exact .inr ⟨left, by simp, [], later, by simpa using rest.symm, by simp, lacks⟩
    | cons first between =>
      cases rest
      exact .inl ⟨before, between, rfl, rfl, lacks⟩

theorem FirstShort.lt_total (short : FirstShort takes n take left) : n < total takes := by
  obtain ⟨before, later, rfl, rfl, lacks⟩ := short
  rw [total_append, total_cons]
  omega

theorem exists_firstShort (cut : n < total takes) : ∃ take left, FirstShort takes n take left := by
  induction takes generalizing n with
  | nil => simp at cut
  | cons first takes ih =>
    by_cases lacks : n < first.length
    · exact ⟨first, n, [], takes, rfl, by simp, lacks⟩
    · rw [total_cons] at cut
      obtain ⟨take, left, before, later, rfl, count, short⟩ := ih (n := n - first.length) (by omega)
      exact ⟨take, left, first :: before, later, rfl, by rw [total_cons]; omega, short⟩

end Take

/-- The takes that a value may be read in. -/
abbrev TakeForm (α : Type) := α → List Take → Prop

def TakeForm.of {α : Type} (takes : α → List Take) : TakeForm α := fun a list => list = takes a

namespace Reader

variable {α β : Type} {reader : Reader α} {next : α → Reader β} {frame rest : Bytes} {a : α} {b : β}

theorem bind_of_ok (success : reader frame = .ok (a, rest)) : (reader >>= next) frame = next a rest := by
  show (reader frame).bind (fun result => next result.1 result.2) = _
  rw [success]
  rfl

theorem bind_of_error {fault : Malformed} (failed : reader frame = .error fault) : (reader >>= next) frame = .error fault := by
  show (reader frame).bind (fun result => next result.1 result.2) = _
  rw [failed]
  rfl

/-- Whatever a reader accepts it has read in takes of this form: it does not look behind them, and of fewer bytes it
says which take does not fit. -/
def Keeps (reader : Reader α) (form : TakeForm α) : Prop :=
  ∀ frame a rest, reader frame = .ok (a, rest) → ∃ takes taken, form a takes ∧ frame = taken ++ rest ∧
    taken.length = Take.total takes ∧ (∀ other, reader (taken ++ other) = .ok (a, other)) ∧
    ∀ n take left, Take.FirstShort takes n take left → reader (taken.take n) = .error (take.short left)

variable {takes : α → List Take} {form : TakeForm α} {whole : TakeForm β}

theorem Keeps.pure (known : form a []) : Keeps (pure a) form := by
  intro frame b rest success
  cases success
  exact ⟨[], [], known, rfl, rfl, fun _ => rfl, fun _ _ _ short => (Take.not_firstShort_nil short).elim⟩

theorem Keeps.fail (fault : Malformed) : Keeps (fail fault) form := by
  intro frame a rest success
  cases success

/-- The second reader goes through what the first one has left of the takes. -/
theorem Keeps.bind (keeps : Keeps reader (.of takes)) (continues : ∀ a, Keeps (next a) fun b later => whole b (takes a ++ later)) :
    Keeps (reader >>= next) whole := by
  intro frame b rest success
  obtain ⟨a, middle, first, second⟩ := bind_eq_ok_iff.mp success
  obtain ⟨_, head, rfl, rfl, headLength, headThen, headShort⟩ := keeps _ _ _ first
  obtain ⟨later, tail, known, rfl, tailLength, tailThen, tailShort⟩ := continues a _ _ _ second
  refine ⟨takes a ++ later, head ++ tail, known, (List.append_assoc ..).symm, ?_, ?_, ?_⟩
  · rw [List.length_append, Take.total_append, headLength, tailLength]
  · intro other
    rw [List.append_assoc, bind_of_ok (headThen _), tailThen]
  · intro n take left short
    rcases short.of_append with inHead | ⟨more, rfl, inTail⟩
    · have within : n ≤ head.length := by
        rw [headLength]
        exact Nat.le_of_lt inHead.lt_total
      rw [List.take_append_of_le_length within]
      exact bind_of_error (headShort n take left inHead)
    · rw [← headLength, List.take_length_add_append, bind_of_ok (headThen _)]
      exact tailShort more take left inTail

theorem Keeps.map {f : α → β} (keeps : Keeps reader (.of takes)) (known : ∀ a, whole (f a) (takes a)) :
    Keeps (f <$> reader) whole := by
  have continues : Keeps (reader >>= fun a => Pure.pure (f a)) whole :=
    keeps.bind fun a => .pure (by simpa using known a)
  exact continues

/-- A reader that takes all of its bytes at once. -/
theorem Reads.keeps {form : WireForm α} {only : α → Take} (reads : Reads reader form)
    (measured : ∀ a taken, form a taken → taken.length = (only a).length ∧
      ∀ short : Bytes, short.length < (only a).length → reader short = .error ((only a).short short.length)) :
    Keeps reader (.of fun a => [only a]) := by
  intro frame a rest success
  obtain ⟨taken, stands, rfl⟩ := (reads _ _ _).mp success
  obtain ⟨length, fails⟩ := measured a taken stands
  refine ⟨_, taken, rfl, rfl, by simpa using length, fun other => (reads _ _ _).mpr ⟨taken, stands, rfl⟩, ?_⟩
  intro n take left short
  obtain ⟨rfl, rfl, lacks⟩ := Take.firstShort_singleton short
  have cut : (taken.take n).length = n := by
    rw [List.length_take, length]
    omega
  rw [fails _ (cut.symm ▸ lacks), cut]

theorem bytes_keeps (count : Nat) : Keeps (bytes count) (.of fun raw => [.bytes raw.length]) := by
  refine (bytes_reads count).keeps ?_
  rintro raw _ ⟨rfl, rfl⟩
  exact ⟨rfl, fun short lacks => if_pos lacks⟩

theorem u8_keeps : Keeps u8 (.of fun _ => [.bytes 1]) := by
  refine u8_reads.keeps ?_
  rintro b _ rfl
  refine ⟨rfl, fun short lacks => ?_⟩
  obtain rfl : short = [] := List.length_eq_zero_iff.mp (Nat.lt_one_iff.mp lacks)
  rfl

/-- A number in as many bytes as its type has. -/
theorem number_keeps {ofNat : Nat → α} {encode : α → Bytes} {count : Nat}
    (reads : Reads ((fun taken => ofNat (Bytes.value taken)) <$> bytes count) (.of encode)) (width : ∀ a, (encode a).length = count) :
    Keeps ((fun taken => ofNat (Bytes.value taken)) <$> bytes count) (.of fun _ => [.bytes count]) := by
  refine reads.keeps ?_
  rintro a _ rfl
  refine ⟨width a, fun short lacks => ?_⟩
  have failed : bytes count short = .error (.truncated count short.length) := if_pos lacks
  show (bytes count >>= fun taken => pure (ofNat (Bytes.value taken))) short = _
  exact bind_of_error failed

theorem u16_keeps : Keeps u16 (.of fun _ => [.bytes 2]) := number_keeps u16_reads fun _ => Bytes.bigEndian_length ..

theorem u32_keeps : Keeps u32 (.of fun _ => [.bytes 4]) := number_keeps u32_reads fun _ => Bytes.bigEndian_length ..

theorem u64_keeps : Keeps u64 (.of fun _ => [.bytes 8]) := number_keeps u64_reads fun _ => Bytes.bigEndian_length ..

theorem nat_keeps : Keeps nat (.of fun _ => [.nat]) := by
  refine nat_reads.keeps ?_
  intro a taken stands
  refine ⟨stands.1.symm.trans a.encode_length, fun short lacks => ?_⟩
  have failed : NatType.decode short = .error (.truncated NatType.wireLength short.length) := by
    unfold NatType.decode
    split
    · simp only [Take.length, NatType.wireLength, List.length_cons] at lacks
      omega
    · rfl
  simp only [nat, failed, Take.short]

theorem flag_keeps : Keeps flag (.of fun _ => [.bytes 1]) := by
  refine u8_keeps.bind fun b => ?_
  split
  · exact .pure rfl
  · exact .pure rfl
  · exact .fail _

theorem coded_keeps {what : Code} {ofCode? : UInt8 → Option α} : Keeps (coded what ofCode?) (.of fun _ => [.bytes 1]) := by
  refine u8_keeps.bind fun c => ?_
  cases ofCode? c with
  | some a => exact .pure rfl
  | none => exact .fail _

theorem string_keeps : Keeps string (.of fun text => [.bytes 1, .bytes (Utf8.encode text).length]) := by
  refine u8_keeps.bind fun count => (bytes_keeps count.toNat).bind fun raw => ?_
  cases decoded : Utf8.decode raw with
  | ok text =>
    obtain rfl := Utf8.decode_eq_ok_iff.mp decoded
    exact .pure rfl
  | error fault => exact .fail _

theorem times_keeps (keeps : Keeps reader (.of takes)) (count : Nat) : Keeps (times reader count) (.of fun list => list.flatMap takes) := by
  induction count with
  | zero => exact .pure rfl
  | succ count ih => exact keeps.bind fun a => ih.bind fun rest => .pure (by simp [TakeForm.of])

theorem list_keeps (keeps : Keeps reader (.of takes)) : Keeps (list reader) (.of fun list => .bytes 1 :: list.flatMap takes) := by
  refine u8_keeps.bind fun count => ?_
  intro frame list rest success
  obtain ⟨_, taken, rfl, kept⟩ := times_keeps keeps count.toNat frame list rest success
  exact ⟨_, taken, rfl, kept⟩

end Reader

end NatTraversal
