/-
  Wiring.Listing.Outcomes

  Lists of outcomes, taken apart into what succeeded and what failed.
-/

namespace List

variable {ε α : Type}

/-- What succeeded, in the order given. -/
def successes (outcomes : List (Except ε α)) : List α := outcomes.filterMap Except.toOption

/-- What failed, in the order given. -/
def failures (outcomes : List (Except ε α)) : List ε :=
  outcomes.filterMap fun
    | .ok _ => none
    | .error problem => some problem

end List
