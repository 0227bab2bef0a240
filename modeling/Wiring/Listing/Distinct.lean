/-
  Wiring.Listing.Distinct

  Lists without repetition: keeping the first element of each key, and collapsing runs of
  equal neighbours.
-/

namespace List

variable {α κ : Type}

/-- Keeps the elements whose key is not among `seen` and not the key of an earlier one. -/
def distinctOnFrom [BEq κ] (key : α → κ) (seen : List κ) : List α → List α
  | [] => []
  | a :: rest =>
    if seen.contains (key a) then distinctOnFrom key seen rest
    else a :: distinctOnFrom key (key a :: seen) rest

/-- Keeps the first element of each key, in the order given. -/
def distinctOn [BEq κ] (key : α → κ) (xs : List α) : List α := distinctOnFrom key [] xs

/-- Drops the elements that equal the one kept before them, of which `last` is the first. -/
def dropRepeatsAfter [BEq α] (last : α) : List α → List α
  | [] => []
  | a :: rest => if last == a then dropRepeatsAfter last rest else a :: dropRepeatsAfter a rest

/-- Keeps the first element of every run of equal neighbours. -/
def dropRepeats [BEq α] : List α → List α
  | [] => []
  | a :: rest => a :: dropRepeatsAfter a rest

/-- Sorts by an ordering; elements that it calls equal keep the order given. -/
def sortBy (cmp : α → α → Ordering) (xs : List α) : List α :=
  xs.mergeSort fun a b => (cmp a b).isLE

/-- The elements in increasing order, each once. -/
def sortDistinct [BEq α] (cmp : α → α → Ordering) (xs : List α) : List α :=
  (xs.sortBy cmp).dropRepeats

end List
