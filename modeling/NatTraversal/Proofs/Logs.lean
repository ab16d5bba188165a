namespace NatTraversal

/-- An entry of a log that has just grown is its new last one, or it stands in the log as it was before. -/
theorem append_cons_eq_concat {α : Type} {first later log : List α} {entry last : α} (eq : first ++ entry :: later = log ++ [last]) :
    (later = [] ∧ first = log ∧ entry = last) ∨ ∃ others, later = others ++ [last] ∧ first ++ entry :: others = log := by
  rcases List.eq_nil_or_concat later with rfl | ⟨others, final, rfl⟩
  · obtain ⟨same, own⟩ := List.append_singleton_inj.mp eq
    exact Or.inl ⟨rfl, same, own⟩
  · rw [List.concat_eq_append, ← List.cons_append, ← List.append_assoc] at eq
    obtain ⟨whole, rfl⟩ := List.append_singleton_inj.mp eq
    exact Or.inr ⟨others, List.concat_eq_append, whole⟩

/-- The last entry of a log that fits, and what has come after it. -/
structure LastOf {α : Type} (fits : α → Prop) (log : List α) (entry : α) (after : List α) : Prop where
  split : ∃ before, log = before ++ entry :: after
  own : fits entry
  rest : ∀ later ∈ after, ¬ fits later

namespace LastOf

variable {α : Type} {fits : α → Prop} {log after : List α} {entry next : α}

theorem self (own : fits next) : LastOf fits (log ++ [next]) next [] := ⟨⟨log, rfl⟩, own, by simp⟩

theorem still (last : LastOf fits log entry after) (other : ¬ fits next) : LastOf fits (log ++ [next]) entry (after ++ [next]) := by
  obtain ⟨⟨before, rfl⟩, own, rest⟩ := last
  refine ⟨⟨before, by simp⟩, own, fun later member => ?_⟩
  rcases List.mem_append.mp member with old | new
  · exact rest later old
  · rw [List.mem_singleton.mp new]
    exact other

theorem of_append (last : LastOf fits (log ++ [next]) entry after) :
    entry = next ∧ after = [] ∨ ¬ fits next ∧ ∃ earlier, after = earlier ++ [next] ∧ LastOf fits log entry earlier := by
  obtain ⟨⟨before, split⟩, own, rest⟩ := last
  rcases append_cons_eq_concat split.symm with ⟨rfl, _, same⟩ | ⟨earlier, rfl, whole⟩
  · exact Or.inl ⟨same, rfl⟩
  · exact Or.inr ⟨rest next (by simp), earlier, rfl, ⟨before, whole.symm⟩, own, fun later member => rest later (by simp [member])⟩

theorem unique {other : α} {since : List α} (last : LastOf fits log entry after) (also : LastOf fits log other since) :
    entry = other ∧ after = since := by
  obtain ⟨⟨before, rfl⟩, own, rest⟩ := last
  obtain ⟨⟨front, split⟩, fitting, free⟩ := also
  rcases List.append_eq_append_iff.mp split with ⟨middle, _, tail⟩ | ⟨middle, _, tail⟩
  · cases middle with
    | nil => exact ⟨(List.cons.inj tail).1, (List.cons.inj tail).2⟩
    | cons first middle =>
      obtain ⟨rfl, rfl⟩ := List.cons.inj tail
      exact absurd fitting (rest other (by simp))
  · cases middle with
    | nil => exact ⟨(List.cons.inj tail).1.symm, (List.cons.inj tail).2.symm⟩
    | cons first middle =>
      obtain ⟨rfl, rfl⟩ := List.cons.inj tail
      exact absurd own (free entry (by simp))

end LastOf

/-- Whether some entry of a log opens what no later entry shuts. -/
def OpenIn {α : Type} (opens shuts : α → Prop) (log : List α) : Prop :=
  ∃ entry after, LastOf opens log entry after ∧ ∀ later ∈ after, ¬ shuts later

namespace OpenIn

variable {α : Type} {opens shuts : α → Prop}

theorem not_nil : ¬ OpenIn opens shuts [] := by
  rintro ⟨entry, after, ⟨⟨before, split⟩, _, _⟩, _⟩
  simp at split

theorem append_iff {log : List α} {next : α} :
    OpenIn opens shuts (log ++ [next]) ↔ opens next ∨ OpenIn opens shuts log ∧ ¬ shuts next := by
  constructor
  · rintro ⟨entry, after, last, unshut⟩
    rcases last.of_append with ⟨rfl, _⟩ | ⟨_, earlier, rfl, before⟩
    · exact Or.inl last.own
    · exact Or.inr ⟨⟨entry, earlier, before, fun later member => unshut later (List.mem_append_left _ member)⟩,
        unshut next (by simp)⟩
  · intro cases
    by_cases own : opens next
    · exact ⟨next, [], .self own, by simp⟩
    · obtain ⟨⟨entry, after, last, unshut⟩, still⟩ := cases.resolve_left own
      refine ⟨entry, _, last.still own, fun later member => ?_⟩
      rcases List.mem_append.mp member with old | new
      · exact unshut later old
      · rwa [List.mem_singleton.mp new]

end OpenIn

end NatTraversal
