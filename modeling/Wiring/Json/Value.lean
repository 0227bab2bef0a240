/-
  Wiring.Json.Value

  JSON values as this library writes them: numbers are integers, and the fields of an object
  keep the order in which they are written.
-/

import Wiring.Listing.Distinct

namespace Wiring

/-- A JSON value to be written. -/
inductive Json where
  | null
  | bool (value : Bool)
  | number (value : Int)
  | text (value : String)
  | array (items : List Json)
  | object (fields : List (String × Json))

namespace Json

/-- A list of texts. -/
def texts (values : List String) : Json := .array (values.map .text)

/-- A value that may be absent, written as null then. -/
def orNull (encode : α → Json) : Option α → Json
  | some value => encode value
  | none => .null

/-- A field that is left out where there is nothing to write. -/
def fieldOf (name : String) (encode : α → Json) : Option α → List (String × Json)
  | some value => [(name, encode value)]
  | none => []

/-- A field holding a list, left out where the list is empty. -/
def fieldOfList (name : String) (encode : α → Json) (values : List α) : List (String × Json) :=
  if values.isEmpty then [] else [(name, .array (values.map encode))]

/-! ## Documents with sorted fields -/

mutual

/-- The same value with the fields of every object in the order of their names. -/
def sorted : Json → Json
  | .array items => .array (sortedItems items)
  | .object fields => .object ((sortedFields fields).sortBy fun a b => compare a.1 b.1)
  | scalar => scalar

/-- Every item with its fields in order. -/
def sortedItems : List Json → List Json
  | [] => []
  | item :: rest => sorted item :: sortedItems rest

/-- Every field with the fields of its value in order. -/
def sortedFields : List (String × Json) → List (String × Json)
  | [] => []
  | (name, value) :: rest => (name, sorted value) :: sortedFields rest

end

end Json
end Wiring
