/-
  Wiring.Proofs.Listing.Outcomes

  Lists that are taken apart, and what is made of the parts. Outcomes are what succeeded and what
  failed, up to the order; what is made of elements in one of two ways is what is made in the one
  way and in the other.
-/

import Wiring.Listing.Outcomes
import Mathlib.Data.List.Perm.Basic

namespace List

variable {ε α β : Type}

@[simp] theorem mem_successes {a : α} {outcomes : List (Except ε α)} :
    a ∈ outcomes.successes ↔ .ok a ∈ outcomes := by
  simp only [successes, mem_filterMap]
  refine ⟨?_, ?_⟩
  · rintro ⟨outcome, hmem, hdone⟩
    cases outcome with
    | error problem => cases hdone
    | ok found => exact Option.some.inj hdone ▸ hmem
  · exact fun hmem => ⟨_, hmem, rfl⟩

@[simp] theorem mem_failures {problem : ε} {outcomes : List (Except ε α)} :
    problem ∈ outcomes.failures ↔ .error problem ∈ outcomes := by
  simp only [failures, mem_filterMap]
  refine ⟨?_, ?_⟩
  · rintro ⟨outcome, hmem, hfail⟩
    cases outcome with
    | error found => exact Option.some.inj hfail ▸ hmem
    | ok found => cases hfail
  · exact fun hmem => ⟨_, hmem, rfl⟩

/-- What is made of successes and of failures is made of all outcomes. -/
theorem successes_append_failures_perm (f : Except ε α → β) (outcomes : List (Except ε α)) :
    (outcomes.successes.map (fun a => f (.ok a)) ++
      outcomes.failures.map fun problem => f (.error problem)).Perm (outcomes.map f) := by
  induction outcomes with
  | nil => exact .refl _
  | cons outcome rest ih =>
      cases outcome with
      | ok a => exact ih.cons (f (.ok a))
      | error problem => exact perm_middle.trans (ih.cons (f (.error problem)))

/-- What is made of elements in one of two ways, of no element in both. -/
theorem filterMap_append_filterMap_perm {f g : α → Option β} (hapart : ∀ a, f a = none ∨ g a = none)
    (xs : List α) :
    (xs.filterMap f ++ xs.filterMap g).Perm (xs.filterMap fun a => (f a).or (g a)) := by
  simp only [filterMap_eq_flatMap_toList]
  refine (flatMap_append_perm xs _ _).trans (.of_eq (flatMap_congr fun a _ => ?_))
  rcases hapart a with hf | hg
  · rw [hf]
    rfl
  · rw [hg, Option.or_none]
    exact append_nil _

end List
