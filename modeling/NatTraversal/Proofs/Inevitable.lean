import Mathlib.Logic.Relation

namespace NatTraversal

/-- A goal that is reached however the steps are chosen: nothing can stop short of it or go on for ever. -/
inductive Inevitable {σ : Type} (step : σ → σ → Prop) (goal : σ → Prop) : σ → Prop
  | now {s : σ} (reached : goal s) : Inevitable step goal s
  | later {s : σ} (goes : ∃ t, step s t) (all : ∀ t, step s t → Inevitable step goal t) : Inevitable step goal s

namespace Inevitable

variable {σ : Type} {step : σ → σ → Prop} {goal other : σ → Prop} {s t : σ}

theorem mono (inevitable : Inevitable step goal s) (less : ∀ s, goal s → other s) : Inevitable step other s := by
  induction inevitable with
  | now reached => exact .now (less _ reached)
  | later goes _ ih => exact .later goes ih

/-- What never stops short of a goal, and has less ahead with every step, reaches it. -/
theorem of_measure {α : Type} {less : α → α → Prop} (wf : WellFounded less) (ahead : σ → α) (holds : σ → Prop)
    (goes_on : ∀ s, holds s → goal s ∨ (∃ t, step s t) ∧ ∀ t, step s t → holds t ∧ less (ahead t) (ahead s)) (start : holds s) :
    Inevitable step goal s := by
  refine (InvImage.wf ahead wf).induction (C := fun s => holds s → Inevitable step goal s) s (fun s ih here => ?_) start
  rcases goes_on s here with reached | ⟨goes, all⟩
  · exact .now reached
  · exact .later goes fun t first => ih t (all t first).2 (all t first).1

/-- The goal is reached where the steps lead. -/
theorem with_steps (inevitable : Inevitable step goal s) : Inevitable step (fun t => goal t ∧ Relation.ReflTransGen step s t) s := by
  induction inevitable with
  | now reached => exact .now ⟨reached, .refl⟩
  | later goes _ ih => exact .later goes fun t first => (ih t first).mono fun u both => ⟨both.1, .head first both.2⟩

theorem reaches (inevitable : Inevitable step goal s) : ∃ t, Relation.ReflTransGen step s t ∧ goal t := by
  induction inevitable with
  | now reached => exact ⟨_, .refl, reached⟩
  | later goes _ ih =>
    obtain ⟨t, first⟩ := goes
    obtain ⟨last, rest, reached⟩ := ih t first
    exact ⟨last, .head first rest, reached⟩

/-- What lasts once it is reached is still ahead, or there already, wherever the steps have led. -/
theorem of_reach (inevitable : Inevitable step goal s) (lasts : ∀ s t, goal s → step s t → goal t)
    (reach : Relation.ReflTransGen step s t) : Inevitable step goal t := by
  induction reach with
  | refl => exact inevitable
  | tail _ last ih =>
    cases ih with
    | now reached => exact .now (lasts _ _ reached last)
    | later _ all => exact all _ last

/-- Two goals that last are reached together. -/
theorem both_reached (first : Inevitable step goal s) (second : Inevitable step other s)
    (first_lasts : ∀ s t, goal s → step s t → goal t) (second_lasts : ∀ s t, other s → step s t → other t) :
    ∃ t, goal t ∧ other t := by
  obtain ⟨t, reach, reached⟩ := first.reaches
  obtain ⟨u, further, also⟩ := (second.of_reach second_lasts reach).reaches
  refine ⟨u, ?_, also⟩
  clear reach also
  induction further with
  | refl => exact reached
  | tail _ last ih => exact first_lasts _ _ ih last

end Inevitable

end NatTraversal
