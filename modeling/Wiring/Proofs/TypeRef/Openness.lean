/-
  Wiring.Proofs.TypeRef.Openness

  Which type parameters make a reference open, and when replacing them closes it: as soon as each of
  them is bound to a closed reference.
-/

import Wiring.Proofs.TypeRef.Bindings

namespace Wiring

namespace TypeRef

/-! ## The type parameters of a reference -/

mutual

/-- The type parameters that a reference mentions, those in the arguments of a type parameter
    apart. -/
def freeParameters : TypeRef → List String
  | ⟨name, kind, args, _⟩ => if kind = .typeParameter then [name] else freeParametersAll args

/-- The type parameters that the references mention. -/
def freeParametersAll : List TypeRef → List String
  | [] => []
  | arg :: rest => freeParameters arg ++ freeParametersAll rest

end

mutual

/-- A reference is closed if it mentions no type parameter. -/
theorem freeParameters_eq_nil_iff :
    ∀ ref : TypeRef, ref.freeParameters = [] ↔ ref.isOpen = false
  | ⟨name, kind, args, nullable⟩ => by
    rw [freeParameters, isOpen, Bool.or_eq_false_iff, beq_eq_false_iff_ne,
      ← freeParametersAll_eq_nil_iff args]
    split <;> simp_all

/-- References are closed if they mention no type parameter. -/
theorem freeParametersAll_eq_nil_iff :
    ∀ refs : List TypeRef, freeParametersAll refs = [] ↔ anyOpen refs = false
  | [] => by simp [freeParametersAll, anyOpen]
  | ref :: rest => by
    rw [freeParametersAll, anyOpen, List.append_eq_nil_iff, Bool.or_eq_false_iff,
      freeParameters_eq_nil_iff ref, freeParametersAll_eq_nil_iff rest]

end

theorem freeParameters_of_kind_ne {ref : TypeRef} (h : ref.kind ≠ .typeParameter) :
    ref.freeParameters = freeParametersAll ref.args := by
  cases ref
  rw [freeParameters, if_neg h]

theorem freeParameters_of_kind_eq {ref : TypeRef} (h : ref.kind = .typeParameter) :
    ref.freeParameters = [ref.name] := by
  cases ref
  rw [freeParameters, if_pos h]

theorem anyOpen_args_of_closed {ref : TypeRef} (h : ref.isOpen = false) :
    anyOpen ref.args = false := by
  cases ref
  rw [isOpen, Bool.or_eq_false_iff] at h
  exact h.2

end TypeRef

namespace TypeBindings

/-! ## Bindings to closed references -/

/-- The names are bound, and everything that is bound stands for a closed reference. -/
structure Closes (bindings : TypeBindings) (names : List String) : Prop where
  binds : ∀ name ∈ names, name ∈ bindings.map Prod.fst
  closed : ∀ entry ∈ bindings, entry.2.isOpen = false

variable {bindings : TypeBindings} {names others : List String} {name : String}

theorem Closes.mono (h : bindings.Closes names) (hsub : ∀ n ∈ others, n ∈ names) :
    bindings.Closes others :=
  ⟨fun n hn => h.binds n (hsub n hn), h.closed⟩

/-- A name that is to be bound stands for a closed reference. -/
theorem Closes.exists_lookup (h : bindings.Closes names) (hname : name ∈ names) :
    ∃ ref, bindings.lookup name = some ref ∧ ref.isOpen = false := by
  obtain ⟨ref, hlookup⟩ := exists_lookup_of_mem_names (h.binds name hname)
  exact ⟨ref, hlookup, h.closed _ (exists_of_lookup_eq_some hlookup)⟩

end TypeBindings

namespace TypeRef

/-! ## Replacing type parameters -/

mutual

/-- Replacing every type parameter by a closed reference closes a reference. -/
theorem isOpen_substitute_of_closes (bindings : TypeBindings) : ∀ ref : TypeRef,
    bindings.Closes ref.freeParameters → (ref.substitute bindings).isOpen = false
  | ⟨name, kind, args, nullable⟩, hcloses => by
    rw [substitute]
    split
    · -- The type parameter is bound, so it goes as a whole
      rename_i hkind
      rw [freeParameters, if_pos hkind] at hcloses
      obtain ⟨bound, hlookup, hclosed⟩ := hcloses.exists_lookup (List.mem_singleton.mpr rfl)
      rw [hlookup]
      exact hclosed
    · rename_i hkind
      rw [freeParameters, if_neg hkind] at hcloses
      rw [isOpen, beq_false_of_ne hkind, Bool.false_or]
      exact anyOpen_substituteAll_of_closes bindings args hcloses

/-- Replacing every type parameter by a closed reference closes the references of a list. -/
theorem anyOpen_substituteAll_of_closes (bindings : TypeBindings) : ∀ refs : List TypeRef,
    bindings.Closes (freeParametersAll refs) → anyOpen (substituteAll bindings refs) = false
  | [], _ => rfl
  | ref :: rest, hcloses => by
    rw [freeParametersAll] at hcloses
    have hhead := isOpen_substitute_of_closes bindings ref
      (hcloses.mono fun n hn => List.mem_append_left _ hn)
    have hrest := anyOpen_substituteAll_of_closes bindings rest
      (hcloses.mono fun n hn => List.mem_append_right _ hn)
    rw [substituteAll, anyOpen, hhead, hrest, Bool.false_or]

end

end TypeRef
end Wiring
