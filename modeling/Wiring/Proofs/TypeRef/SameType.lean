/-
  Wiring.Proofs.TypeRef.SameType

  Three readings of when two references are the same. They may be the same type, whatever their
  kinds and marks of nullability; they may agree in everything but their kinds; they may have the
  same text. Being the same type is equality of what is left without kinds and marks, and the text
  looks at no kinds.
-/

import Wiring.TypeRef.Basic

namespace Wiring
namespace TypeRef

/-! ## Leaving something out -/

mutual

/-- The reference with every kind left out: names, arguments and marks of nullability. -/
def withoutKinds : TypeRef → TypeRef
  | ⟨name, _, args, nullable⟩ => ⟨name, .classType, withoutKindsAll args, nullable⟩

/-- The references with every kind left out. -/
def withoutKindsAll : List TypeRef → List TypeRef
  | [] => []
  | arg :: rest => withoutKinds arg :: withoutKindsAll rest

end

mutual

/-- The reference with every kind and mark of nullability left out: names and arguments. -/
def bare : TypeRef → TypeRef
  | ⟨name, _, args, _⟩ => ⟨name, .classType, bareAll args, false⟩

/-- The references with every kind and mark of nullability left out. -/
def bareAll : List TypeRef → List TypeRef
  | [] => []
  | arg :: rest => bare arg :: bareAll rest

end

/-! ## The same type -/

mutual

/-- References are the same type if they have the same names and arguments. -/
theorem sameType_iff : ∀ a b : TypeRef, a.sameType b = true ↔ a.bare = b.bare
  | ⟨name, _, args, _⟩, ⟨name', _, args', _⟩ => by
    rw [sameType, bare, bare, Bool.and_eq_true, beq_iff_eq, sameTypes_iff args args']
    simp

/-- Lists of references are the same types if they have the same names and arguments. -/
theorem sameTypes_iff : ∀ as bs : List TypeRef, sameTypes as bs = true ↔ bareAll as = bareAll bs
  | [], [] => by simp [sameTypes]
  | [], _ :: _ => by simp [sameTypes, bareAll]
  | _ :: _, [] => by simp [sameTypes, bareAll]
  | a :: as, b :: bs => by
    rw [sameTypes, bareAll, bareAll, Bool.and_eq_true, sameType_iff a b, sameTypes_iff as bs,
      List.cons.injEq]

end

@[simp] theorem sameType_self (ref : TypeRef) : ref.sameType ref = true :=
  (sameType_iff ref ref).mpr rfl

theorem sameType_comm (a b : TypeRef) : a.sameType b = b.sameType a := by
  rw [Bool.eq_iff_iff, sameType_iff, sameType_iff, eq_comm]

/-- Two references that are the same type as a third are the same type. -/
theorem sameType_of_sameType {a b ref : TypeRef} (ha : a.sameType ref = true)
    (hb : b.sameType ref = true) : a.sameType b = true := by
  rw [sameType_iff] at ha hb ⊢
  exact ha.trans hb.symm

/-! ## The same text -/

mutual

/-- The text of a reference does not look at kinds. -/
theorem text_withoutKinds : ∀ ref : TypeRef, ref.withoutKinds.text = ref.text
  | ⟨name, _, args, nullable⟩ => by
    rw [withoutKinds, text, text, argsText_withoutKindsAll args]

/-- The text of arguments does not look at kinds. -/
theorem argsText_withoutKindsAll :
    ∀ refs : List TypeRef, argsText (withoutKindsAll refs) = argsText refs
  | [] => rfl
  | ref :: rest => by
    rw [withoutKindsAll, argsText, argsText, text_withoutKinds ref,
      moreArgsText_withoutKindsAll rest]

/-- The text of further arguments does not look at kinds. -/
theorem moreArgsText_withoutKindsAll :
    ∀ refs : List TypeRef, moreArgsText (withoutKindsAll refs) = moreArgsText refs
  | [] => rfl
  | ref :: rest => by
    rw [withoutKindsAll, moreArgsText, moreArgsText, text_withoutKinds ref,
      moreArgsText_withoutKindsAll rest]

end

/-- References that agree in everything but their kinds have the same text. -/
theorem text_eq_of_withoutKinds_eq {a b : TypeRef} (h : a.withoutKinds = b.withoutKinds) :
    a.text = b.text := by
  rw [← text_withoutKinds a, h, text_withoutKinds]

end TypeRef
end Wiring
