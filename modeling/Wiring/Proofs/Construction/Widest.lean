/-
  Wiring.Proofs.Construction.Widest

  Choosing a constructor. The widest entry of a list is the first one with the greatest number of
  parameters; it exists unless the list is empty, and looks at its entries only through these
  numbers. What a declaration offers for the choice are its declared callable constructors, or one
  without parameters if it declares none.
-/

import Wiring.Construction.Basic
import Mathlib.Data.List.MinMax

namespace Wiring

/-! ## The widest entry -/

section Widest

variable {α β : Type} {parameters : α → List Parameter}

/-- Choosing from behind is keeping the best entry so far from the front on, unless a later one has
    more parameters. -/
theorem widest_eq_argmax (parameters : α → List Parameter) (entries : List α) :
    widest parameters entries = entries.argmax fun entry => (parameters entry).length := by
  induction entries with
  | nil => rfl
  | cons entry rest ih =>
      rw [widest, ih, List.argmax_cons]
      cases rest.argmax fun entry => (parameters entry).length <;> rfl

theorem widest_eq_none_iff {entries : List α} :
    widest parameters entries = none ↔ entries = [] := by
  rw [widest_eq_argmax, List.argmax_eq_none]

theorem isSome_widest_iff {entries : List α} :
    (widest parameters entries).isSome ↔ ∃ entry, entry ∈ entries := by
  rw [Option.isSome_iff_ne_none, Ne, widest_eq_none_iff]
  refine ⟨?_, ?_⟩
  · exact List.exists_mem_of_ne_nil entries
  · rintro ⟨entry, hmem⟩
    exact List.ne_nil_of_mem hmem

theorem mem_of_widest_eq_some {entries : List α} {best : α}
    (h : widest parameters entries = some best) : best ∈ entries := by
  rw [widest_eq_argmax] at h
  exact List.argmax_mem h

/-- Among entries in the order of their keys, no entry has more parameters than the widest, and none
    that has as many has a smaller key. -/
theorem le_of_widest_eq_some [DecidableEq α] {key : α → Nat} {entries : List α} {best entry : α}
    (hordered : entries.Pairwise fun a b => key a < key b)
    (h : widest parameters entries = some best) (hmem : entry ∈ entries) :
    (parameters entry).length ≤ (parameters best).length ∧
      ((parameters entry).length = (parameters best).length → key best ≤ key entry) := by
  have hbest : best ∈ entries.argmax fun entry => (parameters entry).length := by
    rwa [widest_eq_argmax] at h
  refine ⟨List.le_of_mem_argmax (f := fun e => (parameters e).length) hmem hbest, fun hlength => ?_⟩
  have hplace : entries.idxOf best ≤ entries.idxOf entry :=
    List.index_of_argmax hbest hmem hlength.ge
  rcases Nat.eq_or_lt_of_le hplace with hsame | hbefore
  · rw [(List.idxOf_inj (List.argmax_mem hbest)).mp hsame]
  · -- The widest entry stands before this one
    have hbestPlace := List.idxOf_lt_length_of_mem (List.argmax_mem hbest)
    have hentryPlace := List.idxOf_lt_length_of_mem hmem
    have hkeys := List.pairwise_iff_getElem.mp hordered _ _ hbestPlace hentryPlace hbefore
    rw [List.getElem_idxOf, List.getElem_idxOf] at hkeys
    exact hkeys.le

/-- The choice looks at nothing but the numbers of parameters. -/
theorem widest_map (parameters : α → List Parameter) (parameters' : β → List Parameter)
    (f : α → β) (hlength : ∀ a, (parameters' (f a)).length = (parameters a).length)
    (entries : List α) :
    widest parameters' (entries.map f) = (widest parameters entries).map f := by
  induction entries with
  | nil => rfl
  | cons entry rest ih =>
      rw [List.map_cons, widest, widest, ih]
      cases widest parameters rest with
      | none => rfl
      | some best =>
          simp only [Option.map_some, hlength]
          split <;> rfl

end Widest

namespace Declaration

variable {d : Declaration}

/-! ## The constructors on offer -/

/-- The callable constructors are kept with the places where they are declared. -/
theorem mem_callableConstructors_iff {e : Nat × Constructor} :
    e ∈ d.callableConstructors ↔ d.constructors[e.1]? = some e.2 ∧ e.2.isCallable = true := by
  obtain ⟨place, c⟩ := e
  simp [callableConstructors, List.mk_mem_zipIdx_iff_getElem?]

theorem exists_mem_callableConstructors_iff (holds : Constructor → Prop) :
    (∃ e ∈ d.callableConstructors, holds e.2) ↔
      ∃ c ∈ d.constructors, c.isCallable = true ∧ holds c := by
  simp only [mem_callableConstructors_iff, Prod.exists]
  refine ⟨?_, ?_⟩
  · rintro ⟨place, c, ⟨hplace, hcall⟩, hholds⟩
    exact ⟨c, List.mem_of_getElem? hplace, hcall, hholds⟩
  · rintro ⟨c, hmem, hcall, hholds⟩
    obtain ⟨place, hplace⟩ := List.mem_iff_getElem?.mp hmem
    exact ⟨place, c, ⟨hplace, hcall⟩, hholds⟩

/-- A constructor on offer is a declared callable one, or the implicit one of a type that declares
    none. -/
theorem exists_mem_effectiveConstructors_iff (holds : Constructor → Prop) :
    (∃ e ∈ d.effectiveConstructors, holds e.2) ↔
      (d.constructors = [] ∧ holds {}) ∨ ∃ c ∈ d.constructors, c.isCallable = true ∧ holds c := by
  unfold effectiveConstructors
  split
  · rename_i hempty
    rw [List.isEmpty_iff] at hempty
    simp [hempty]
  · rename_i hdeclared
    rw [List.isEmpty_iff] at hdeclared
    rw [exists_mem_callableConstructors_iff]
    simp [hdeclared]

end Declaration
end Wiring
