/-
  Wiring.TypeRef.Order

  The order of references: by name, then by kind in the order in which the kinds are listed, then
  by arguments from the left, then by nullability, plain references first.
-/

import Wiring.TypeRef.Basic
import Wiring.Listing.Distinct

namespace Wiring

/-- The place of a kind among the kinds. -/
def TypeKind.rank : TypeKind → Nat
  | .classType => 0
  | .interface => 1
  | .struct => 2
  | .enum => 3
  | .primitive => 4
  | .string => 5
  | .delegate => 6
  | .typeParameter => 7
  | .array => 8

namespace TypeRef

mutual

/-- Compares two references. -/
def order : TypeRef → TypeRef → Ordering
  | ⟨name, kind, args, nullable⟩, ⟨name', kind', args', nullable'⟩ =>
    (compare name name').then <|
      (compare kind.rank kind'.rank).then <|
        (orderAll args args').then (compare nullable nullable')

/-- Compares two lists of references from the left; a list that ends first comes first. -/
def orderAll : List TypeRef → List TypeRef → Ordering
  | [], [] => .eq
  | [], _ :: _ => .lt
  | _ :: _, [] => .gt
  | a :: as, b :: bs => (order a b).then (orderAll as bs)

end

/-- The different references of a list in order. -/
def distinct (refs : List TypeRef) : List TypeRef := refs.sortDistinct order

end TypeRef
end Wiring
