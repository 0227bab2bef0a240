/-
  Wiring.Proofs.TypeRef.Substitution

  Replacing type parameters leaves closed references as they are.
-/

import Wiring.TypeRef.Matching

namespace Wiring
namespace TypeRef

mutual

/-- A closed reference has nothing to replace. -/
theorem substitute_of_closed (bindings : TypeBindings) :
    ∀ ref : TypeRef, ref.isOpen = false → ref.substitute bindings = ref
  | ⟨name, kind, args, nullable⟩, hclosed => by
    simp only [isOpen, Bool.or_eq_false_iff, beq_eq_false_iff_ne] at hclosed
    rw [substitute, if_neg hclosed.1, substituteAll_of_closed bindings args hclosed.2]

/-- Closed references have nothing to replace. -/
theorem substituteAll_of_closed (bindings : TypeBindings) :
    ∀ refs : List TypeRef, anyOpen refs = false → substituteAll bindings refs = refs
  | [], _ => rfl
  | ref :: rest, hclosed => by
    simp only [anyOpen, Bool.or_eq_false_iff] at hclosed
    rw [substituteAll, substitute_of_closed bindings ref hclosed.1,
      substituteAll_of_closed bindings rest hclosed.2]

end

/-- The container can supply a resolvable reference as it is written. -/
theorem substitute_of_resolvable (bindings : TypeBindings) {ref : TypeRef}
    (h : ref.isResolvable = true) : ref.substitute bindings = ref := by
  simp only [isResolvable, Bool.and_eq_true, Bool.not_eq_true'] at h
  exact substitute_of_closed bindings ref h.2

end TypeRef
end Wiring
