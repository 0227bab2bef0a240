/-
  Wiring.Plan.Order

  The order in which everything is generated: what the current module declares first, then the
  other modules by name, and inside of a module the types by name.
-/

import Wiring.Listing.Distinct

namespace Wiring

/-- A type as the order of generation sees it. -/
structure Placement where
  moduleName : String
  typeName : String
deriving DecidableEq

namespace Placement

/-- The current module comes before the others. -/
def rank (current : String) (p : Placement) : Nat := if p.moduleName = current then 0 else 1

/-- The order of generation. -/
def order (current : String) : Placement → Placement → Ordering :=
  compareLex (compareOn (rank current)) <|
    compareLex (compareOn (·.moduleName)) (compareOn (·.typeName))

/-- Compares by placement. -/
def orderOn {α : Type} (current : String) (place : α → Placement) (a b : α) : Ordering :=
  order current (place a) (place b)

end Placement
end Wiring
