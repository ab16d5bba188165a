namespace NatTraversal

/-- A finite map, in the order in which its keys came in. -/
structure Table (κ ν : Type) where
  entries : List (κ × ν)
  nodup : (entries.map (·.1)).Nodup

namespace Table

variable {κ ν : Type}

instance [DecidableEq κ] [DecidableEq ν] : DecidableEq (Table κ ν) := fun s t =>
  if h : s.entries = t.entries then isTrue (by cases s; cases t; simp_all)
  else isFalse (by intro e; exact h (e ▸ rfl))

instance [Repr κ] [Repr ν] : Repr (Table κ ν) := ⟨fun t n => reprPrec t.entries n⟩

def empty : Table κ ν := ⟨[], by simp⟩

instance : EmptyCollection (Table κ ν) := ⟨empty⟩

instance : Inhabited (Table κ ν) := ⟨empty⟩

def keys (t : Table κ ν) : List κ := t.entries.map (·.1)

def values (t : Table κ ν) : List ν := t.entries.map (·.2)

def size (t : Table κ ν) : Nat := t.entries.length

def isEmpty (t : Table κ ν) : Bool := t.entries.isEmpty

/-- The entries that satisfy a condition. -/
def filter (t : Table κ ν) (keep : κ → ν → Bool) : Table κ ν where
  entries := t.entries.filter fun e => keep e.1 e.2
  nodup := t.nodup.sublist (List.filter_sublist.map _)

/-- New values under the same keys. -/
def map {μ : Type} (t : Table κ ν) (f : κ → ν → μ) : Table κ μ where
  entries := t.entries.map fun e => (e.1, f e.1 e.2)
  nodup := by have h := t.nodup; simpa [Function.comp_def] using h

theorem eq_of_entries {s t : Table κ ν} (same : s.entries = t.entries) : s = t := by
  cases s
  cases t
  simp_all

variable [DecidableEq κ]

def get? (t : Table κ ν) (k : κ) : Option ν := (t.entries.find? fun e => e.1 = k).map (·.2)

def contains (t : Table κ ν) (k : κ) : Bool := t.entries.any fun e => e.1 = k

def erase (t : Table κ ν) (k : κ) : Table κ ν := t.filter fun key _ => key ≠ k

/-- Gives a key a value. A new key comes last, a known one keeps its place. -/
def insert (t : Table κ ν) (k : κ) (v : ν) : Table κ ν :=
  if new : t.contains k = false then
    ⟨t.entries ++ [(k, v)], by
      have nodup := t.nodup
      simp only [contains, List.any_eq_false, decide_eq_true_eq] at new
      simp only [List.map_append, List.map_cons, List.map_nil, List.nodup_append]
      refine ⟨nodup, by simp, ?_⟩
      intro a ha b hb
      obtain ⟨e, he, rfl⟩ := List.mem_map.1 ha
      simp only [List.mem_singleton] at hb
      exact hb ▸ new e he⟩
  else t.map fun key old => if key = k then v else old

/-- Changes the value of a key that is there. -/
def modify (t : Table κ ν) (k : κ) (f : ν → ν) : Table κ ν := t.map fun key old => if key = k then f old else old

def ofList (entries : List (κ × ν)) : Table κ ν := entries.foldl (fun t e => t.insert e.1 e.2) empty

@[simp] theorem get?_empty (k : κ) : (empty : Table κ ν).get? k = none := rfl

/-- What is known of one key, as of a change there. -/
theorem get?_eq_ite {t : Table κ ν} {k : κ} {v : Option ν} (known : t.get? k = v) (j : κ) :
    t.get? j = if j = k then v else t.get? j := by
  split
  · rename_i same
    rw [same, known]
  · rfl

theorem get?_eq_some_iff {t : Table κ ν} {k : κ} {v : ν} : t.get? k = some v ↔ (k, v) ∈ t.entries := by
  obtain ⟨entries, nodup⟩ := t
  simp only [get?]
  induction entries with
  | nil => simp
  | cons e rest ih =>
    simp only [List.map_cons, List.nodup_cons] at nodup
    by_cases h : e.1 = k
    · subst h
      rw [List.find?_cons_of_pos (by simp)]
      simp only [Option.map_some, Option.some.injEq, List.mem_cons]
      constructor
      · rintro rfl; exact Or.inl rfl
      · rintro (h | h)
        · rw [← h]
        · exact absurd (List.mem_map_of_mem (f := (·.1)) h) nodup.1
    · rw [List.find?_cons_of_neg (by simpa using h), ih nodup.2]
      simp only [List.mem_cons]
      constructor
      · exact Or.inr
      · rintro (h' | h')
        · exact absurd (by rw [← h']) h
        · exact h'

theorem contains_eq_isSome (t : Table κ ν) (k : κ) : t.contains k = (t.get? k).isSome := by
  rw [contains, get?, Option.isSome_map, Bool.eq_iff_iff, List.find?_isSome]
  simp

theorem get?_eq_none {t : Table κ ν} {k : κ} (absent : ¬ t.contains k = true) : t.get? k = none := by
  rw [contains_eq_isSome] at absent
  simpa using absent

theorem get?_filter (t : Table κ ν) (keep : κ → ν → Bool) (k : κ) :
    (t.filter keep).get? k = (t.get? k).filter (keep k) := by
  apply Option.ext
  intro v
  rw [get?_eq_some_iff, Option.filter_eq_some_iff, get?_eq_some_iff]
  simp [filter]

theorem get?_erase (t : Table κ ν) (k j : κ) : (t.erase k).get? j = if j = k then none else t.get? j := by
  rw [erase, get?_filter]
  by_cases h : j = k <;> cases t.get? j <;> simp [h, Option.filter]

theorem get?_of_erase {t : Table κ ν} {k j : κ} {v : ν} (known : (t.erase k).get? j = some v) : t.get? j = some v := by
  rw [get?_erase] at known
  split at known
  · cases known
  · exact known

theorem erase_eq_self {t : Table κ ν} {k : κ} (absent : t.get? k = none) : t.erase k = t := by
  apply eq_of_entries
  refine List.filter_eq_self.mpr fun e member => ?_
  rw [decide_eq_true_eq]
  rintro rfl
  cases absent.symm.trans (get?_eq_some_iff.mpr member)

theorem isSome_get?_of_erase {t : Table κ ν} {k j : κ} (known : ((t.erase k).get? j).isSome = true) : (t.get? j).isSome = true := by
  rw [get?_erase] at known
  split at known
  · cases known
  · exact known

theorem get?_map {μ : Type} (t : Table κ ν) (f : κ → ν → μ) (k : κ) : (t.map f).get? k = (t.get? k).map (f k) := by
  apply Option.ext
  intro v
  rw [get?_eq_some_iff, Option.map_eq_some_iff]
  simp only [map, List.mem_map, Prod.mk.injEq]
  constructor
  · rintro ⟨e, he, rfl, rfl⟩
    exact ⟨e.2, get?_eq_some_iff.2 he, rfl⟩
  · rintro ⟨w, hw, rfl⟩
    exact ⟨(k, w), get?_eq_some_iff.1 hw, rfl, rfl⟩

theorem get?_insert (t : Table κ ν) (k j : κ) (v : ν) : (t.insert k v).get? j = if j = k then some v else t.get? j := by
  by_cases new : t.contains k = false
  · rw [insert, dif_pos new]
    have absent : t.get? k = none := by
      rw [contains_eq_isSome] at new; simpa using new
    simp only [get?, List.find?_append] at absent ⊢
    by_cases h : j = k
    · subst h
      have : (t.entries.find? fun e => decide (e.1 = j)) = none := by simpa using absent
      simp [this]
    · cases hf : t.entries.find? fun e => decide (e.1 = j) <;> simp [h, eq_comm]
  · rw [insert, dif_neg new, get?_map]
    have present : (t.get? k).isSome := by
      rw [← contains_eq_isSome]; simpa using new
    by_cases h : j = k
    · subst h
      obtain ⟨w, hw⟩ := Option.isSome_iff_exists.1 present
      simp [hw]
    · cases t.get? j <;> simp [h]

theorem get?_modify (t : Table κ ν) (k j : κ) (f : ν → ν) :
    (t.modify k f).get? j = if j = k then (t.get? j).map f else t.get? j := by
  rw [modify, get?_map]
  by_cases h : j = k <;> cases t.get? j <;> simp [h]

theorem contains_insert_self (t : Table κ ν) (k : κ) (v : ν) : (t.insert k v).contains k = true := by
  rw [contains_eq_isSome, get?_insert, if_pos rfl, Option.isSome_some]

theorem entries_insert_of_new {t : Table κ ν} {k : κ} (new : t.contains k = false) (v : ν) :
    (t.insert k v).entries = t.entries ++ [(k, v)] := by
  rw [insert, dif_pos new]

theorem entries_insert_of_known {t : Table κ ν} {k : κ} (known : t.contains k = true) (v : ν) :
    (t.insert k v).entries = t.entries.map fun e => (e.1, if e.1 = k then v else e.2) := by
  rw [insert, dif_neg (by simp [known])]
  rfl

theorem size_insert_of_new {t : Table κ ν} {k : κ} (new : t.contains k = false) (v : ν) : (t.insert k v).size = t.size + 1 := by
  rw [size, entries_insert_of_new new, List.length_append]
  rfl

theorem size_insert_of_known {t : Table κ ν} {k : κ} (known : t.contains k = true) (v : ν) : (t.insert k v).size = t.size := by
  rw [size, entries_insert_of_known known, List.length_map]
  rfl

/-- The last value given to a key counts. -/
theorem insert_insert (t : Table κ ν) (k : κ) (v w : ν) : (t.insert k v).insert k w = t.insert k w := by
  apply eq_of_entries
  rw [entries_insert_of_known (t.contains_insert_self k v)]
  cases known : t.contains k with
  | false =>
    have apart : ∀ e ∈ t.entries, (e.1, if e.1 = k then w else e.2) = e := by
      intro e member
      have other : e.1 ≠ k := by
        rw [contains, List.any_eq_false] at known
        simpa using known e member
      rw [if_neg other]
    rw [entries_insert_of_new known, entries_insert_of_new known, List.map_append, List.map_congr_left apart]
    simp
  | true =>
    rw [entries_insert_of_known known, entries_insert_of_known known, List.map_map]
    apply List.map_congr_left
    intro e _
    by_cases same : e.1 = k <;> simp [same]

/-- A key that is erased leaves nothing of the value that it was given. -/
theorem erase_insert (t : Table κ ν) (k : κ) (v : ν) : (t.insert k v).erase k = t.erase k := by
  apply eq_of_entries
  simp only [erase, filter]
  cases known : t.contains k with
  | false =>
    rw [entries_insert_of_new known, List.filter_append]
    simp
  | true =>
    rw [entries_insert_of_known known, List.filter_map]
    have apart : ∀ e ∈ t.entries.filter (fun e => decide (e.1 ≠ k)), (e.1, if e.1 = k then v else e.2) = e := by
      intro e member
      have other := (List.mem_filter.mp member).2
      rw [decide_eq_true_eq] at other
      rw [if_neg other]
    refine (List.map_congr_left apart).trans ?_
    rw [List.map_id']

theorem not_contains_of_get?_eq_none {t : Table κ ν} {k : κ} (absent : t.get? k = none) : t.contains k = false := by
  rw [contains_eq_isSome, absent, Option.isSome_none]

theorem contains_of_get? {t : Table κ ν} {k : κ} {v : ν} (known : t.get? k = some v) : t.contains k = true := by
  rw [contains_eq_isSome, known, Option.isSome_some]

/-- To change a value is to give the key the changed one. -/
theorem modify_eq_insert {t : Table κ ν} {k : κ} {v : ν} (known : t.get? k = some v) (f : ν → ν) :
    t.modify k f = t.insert k (f v) := by
  apply eq_of_entries
  rw [entries_insert_of_known (contains_of_get? known)]
  refine List.map_congr_left fun e member => ?_
  by_cases same : e.1 = k
  · have value : e.2 = v := by
      have found := get?_eq_some_iff.mpr member
      rw [same, known] at found
      exact (Option.some.inj found).symm
    simp only [same, value, if_true]
  · simp only [same, if_false]

theorem modify_eq_self {t : Table κ ν} {k : κ} (absent : t.get? k = none) (f : ν → ν) : t.modify k f = t := by
  apply eq_of_entries
  refine (List.map_congr_left fun e member => ?_).trans (List.map_id _)
  have other : e.1 ≠ k := by
    rintro rfl
    cases absent.symm.trans (get?_eq_some_iff.mpr member)
  simp only [other, if_false, id_eq]

theorem insert_eq_self {t : Table κ ν} {k : κ} {v : ν} (known : t.get? k = some v) : t.insert k v = t := by
  refine (modify_eq_insert known id).symm.trans (eq_of_entries ?_)
  exact (List.map_congr_left fun e _ => by simp).trans (List.map_id _)

theorem values_insert_of_new {t : Table κ ν} {k : κ} (absent : t.get? k = none) (v : ν) :
    (t.insert k v).values = t.values ++ [v] := by
  rw [values, entries_insert_of_new (not_contains_of_get?_eq_none absent), List.map_append]
  rfl

/-- The value of a key stands in one place among the values, and a new one takes it. -/
theorem values_insert_of_known {t : Table κ ν} {k : κ} {v : ν} (known : t.get? k = some v) :
    ∃ before after, t.values = before ++ v :: after ∧ ∀ w, (t.insert k w).values = before ++ w :: after := by
  obtain ⟨before, after, split⟩ := List.mem_iff_append.mp (get?_eq_some_iff.mp known)
  have once := t.nodup
  rw [split, List.map_append, List.map_cons, List.nodup_append, List.nodup_cons] at once
  obtain ⟨_, ⟨later, _⟩, earlier⟩ := once
  have kept : ∀ (w : ν) (e : κ × ν), e ∈ before ∨ e ∈ after → (if e.1 = k then w else e.2) = e.2 := by
    intro w e member
    refine if_neg ?_
    rintro rfl
    rcases member with old | new
    · exact earlier e.1 (List.mem_map.mpr ⟨e, old, rfl⟩) e.1 (List.mem_cons_self ..) rfl
    · exact later (List.mem_map.mpr ⟨e, new, rfl⟩)
  refine ⟨before.map (·.2), after.map (·.2), by rw [values, split]; simp, fun w => ?_⟩
  rw [values, entries_insert_of_known (contains_of_get? known), split]
  simp only [List.map_append, List.map_cons, List.map_map, if_true]
  congr 1
  · exact List.map_congr_left fun e member => kept w e (.inl member)
  · congr 1
    exact List.map_congr_left fun e member => kept w e (.inr member)

theorem mem_values_iff {t : Table κ ν} {v : ν} : v ∈ t.values ↔ ∃ k, t.get? k = some v := by
  simp only [values, List.mem_map, get?_eq_some_iff]
  constructor
  · rintro ⟨e, member, rfl⟩
    exact ⟨e.1, member⟩
  · rintro ⟨k, member⟩
    exact ⟨(k, v), member, rfl⟩

theorem entries_perm_of_get? {t : Table κ ν} {k : κ} {v : ν} (known : t.get? k = some v) :
    t.entries.Perm ((k, v) :: (t.erase k).entries) := by
  obtain ⟨before, after, split⟩ := List.mem_iff_append.mp (get?_eq_some_iff.mp known)
  have once := t.nodup
  rw [split, List.map_append, List.map_cons, List.nodup_append, List.nodup_cons] at once
  obtain ⟨_, ⟨later, _⟩, earlier⟩ := once
  have rest : (t.erase k).entries = before ++ after := by
    simp only [erase, filter, split, List.filter_append, List.filter_cons, ne_eq, not_true_eq_false, decide_false,
      Bool.false_eq_true, if_false]
    congr 1
    · refine List.filter_eq_self.mpr fun e member => decide_eq_true ?_
      exact fun same => earlier e.1 (List.mem_map_of_mem member) k List.mem_cons_self same
    · refine List.filter_eq_self.mpr fun e member => decide_eq_true ?_
      exact fun same => later (List.mem_map.mpr ⟨e, member, same⟩)
  rw [split, rest]
  exact List.perm_middle

theorem entries_insert_perm (t : Table κ ν) (k : κ) (v : ν) :
    (t.insert k v).entries.Perm ((k, v) :: (t.erase k).entries) := by
  have perm := entries_perm_of_get? ((t.get?_insert k k v).trans (if_pos rfl))
  rwa [erase_insert] at perm

end Table

end NatTraversal
