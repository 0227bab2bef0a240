/-
  Wiring.Json.Reader

  Readers for the parts of a JSON text. A reader takes a draft and returns a value or the fault
  that comes first in the text. A reader of a container is told its scope: the number of levels
  that are left for it and everything inside it, and whether it reads along with the text or from
  a value at hand.
-/

import Wiring.Json.Draft
import Wiring.Json.Fault

namespace Wiring.Json

/-- Reads a value from a draft. -/
abbrev Reader (α : Type) := Draft → Except Fault α

/-- The number of containers that may enclose one another in a text. -/
def nestingLimit : Nat := 127

/-- Where a reader of a container stands. -/
structure Scope where
  /-- The number of containers that may still enclose one another. -/
  levels : Nat := nestingLimit
  /-- Whether the value is at hand as a whole. A container that is read along with its text goes
      wrong where the text does not go on as it has to; one at hand can be looked over first. -/
  atHand : Bool := false

namespace Scope

/-- The scope of what a container holds. -/
def inner (scope : Scope) : Scope := { scope with levels := scope.levels - 1 }

/-- Whether no container may stand here. -/
def isSpent (scope : Scope) : Bool := scope.levels == 0

/-- The fault of a container or a choice that has not the form it has to have. Read along with a
    text, it is one of the notation. -/
def formFault (scope : Scope) (fault : Fault) : Fault :=
  if scope.atHand then fault else .malformed

end Scope

/-- The fault of a draft that is not what is expected. -/
def Draft.mismatch (expected : String) : Draft → Fault
  | .null => .wrongType .null expected
  | .bool value => .wrongType (.bool value) expected
  | .number numeral =>
    match numeral.value with
    | .integer value => .wrongType (.integer value) expected
    | .float negative magnitude => .wrongType (.float negative magnitude) expected
    | .tooLarge => .malformed
  | .text value => .wrongType (.text value) expected
  | .array _ => .wrongType .sequence expected
  | .object _ => .wrongType .map expected
  | .unpaired | .cut => .malformed

namespace Read

variable {α β : Type}

/-! ## Scalars and lists -/

/-- A text. -/
def text : Reader String
  | .text value => .ok value
  | other => .error (other.mismatch "a string")

/-- A yes or no. -/
def bool : Reader Bool
  | .bool value => .ok value
  | other => .error (other.mismatch "a boolean")

/-- An integer from `low` to `high`. -/
def integer (low high : Int) (expected : String) : Reader Int
  | .number numeral =>
    match numeral.value with
    | .integer value =>
      if low ≤ value ∧ value ≤ high then .ok value
      else .error (.unfitValue (.integer value) expected)
    | _ => .error (Draft.mismatch expected (.number numeral))
  | other => .error (other.mismatch expected)

/-- A signed integer of 32 bits. -/
def int32 : Reader Int32 := fun draft =>
  (integer (-2147483648) 2147483647 "i32" draft).map Int32.ofInt

/-- An integer of 32 bits without a sign. -/
def uint32 : Reader UInt32 := fun draft =>
  (integer 0 4294967295 "u32" draft).map fun value => UInt32.ofNat value.toNat

/-- A count or a position. -/
def size : Reader Nat := fun draft =>
  (integer 0 18446744073709551615 "usize" draft).map Int.toNat

/-- A value that may be null. -/
def orNull (read : Reader α) : Reader (Option α)
  | .null => .ok none
  | other => (read other).map some

/-- A list of values. -/
def list (scope : Scope) (read : Reader α) : Reader (List α)
  | .array items => if scope.isSpent then .error .malformed else items.mapM read
  | other => .error (other.mismatch "a sequence")

/-- The entries of an object whose names are data. -/
def entries (scope : Scope) (read : Reader α) : Reader (List (String × α))
  | .object members =>
    if scope.isSpent then .error .malformed
    else members.mapM fun (name, value) =>
      match name with
      | .text name => (read value).map fun value => (name, value)
      | _ => .error .malformed
  | other => .error (other.mismatch "a map")

/-! ## Records -/

/-- A value, or a fault with its place in a record: the fault that stands first counts. -/
inductive Attempt (α : Type) where
  | done (value : α)
  | failed (place : Nat) (fault : Fault)

/-- A function and its argument, each read in a place of its own. -/
def Attempt.apply : Attempt (α → β) → Attempt α → Attempt β
  | .done f, .done value => .done (f value)
  | .failed place fault, .done _ => .failed place fault
  | .done _, .failed place fault => .failed place fault
  | .failed place fault, .failed place' fault' =>
    if place' < place then .failed place' fault' else .failed place fault

instance : Applicative Attempt where
  pure := .done
  seq f value := f.apply (value ())

/-- An attempt without its places. -/
def Attempt.result : Attempt α → Except Fault α
  | .done value => .ok value
  | .failed _ fault => .error fault

/-- The attempt of a single place. -/
def Attempt.ofExcept (place : Nat) : Except Fault α → Attempt α
  | .ok value => .done value
  | .error fault => .failed place fault

/-- The text of a record: its fields either by name or in their order. -/
inductive Layout where
  | named (members : List (Draft × Draft))
  | listed (items : List Draft)

/-- A record that is being read. -/
structure Record where
  /-- What a list of too few elements falls short of. -/
  complete : String
  fields : List String
  layout : Layout

/-- The first member of a name, with its place. -/
def findMember (name : String) (place : Nat) : List (Draft × Draft) → Option (Nat × Draft)
  | [] => none
  | (.text other, value) :: rest =>
    if other = name then some (place, value) else findMember name (place + 1) rest
  | _ :: rest => findMember name (place + 1) rest

/-- Where the text holds a field, and what it holds there. -/
def Record.find (record : Record) (name : String) : Option (Nat × Draft) :=
  match record.layout with
  | .named members => findMember name 0 members
  | .listed items =>
    let place := record.fields.idxOf name
    items[place]?.map fun value => (place, value)

/-- The fault of a record that lacks a field. It is noticed behind all members of an object, and
    in its place in a list. -/
def Record.lacks (record : Record) (name : String) : Attempt α :=
  match record.layout with
  | .named members => .failed members.length (.missingField name)
  | .listed _ =>
    let place := record.fields.idxOf name
    .failed place (.wrongLength place record.complete)

/-- A field that has to be there. -/
def Record.required (record : Record) (name : String) (read : Reader α) : Attempt α :=
  match record.find name with
  | some (place, value) => .ofExcept place (read value)
  | none => record.lacks name

/-- A field with a value to take where it is left out. -/
def Record.optional (record : Record) (name : String) (absent : α) (read : Reader α) :
    Attempt α :=
  match record.find name with
  | some (place, value) => .ofExcept place (read value)
  | none => .done absent

/-- A field that may be null, which an object may also leave out. -/
def Record.nullable (record : Record) (name : String) (read : Reader α) : Attempt (Option α) :=
  match record.find name, record.layout with
  | some (place, value), _ => .ofExcept place (orNull read value)
  | none, .named _ => .done none
  | none, .listed _ => record.lacks name

/-- The first fault in the form of an object: a known field that comes again, or a member that is
    not to be read and is not JSON. -/
def checkMembers (fields seen : List String) (place : Nat) :
    List (Draft × Draft) → Attempt Unit
  | [] => .done ()
  | (.text name, value) :: rest =>
    if fields.contains name then
      if seen.contains name then .failed place (.duplicateField name)
      else checkMembers fields (name :: seen) (place + 1) rest
    else if value.isWhole then checkMembers fields seen (place + 1) rest
    else .failed place .malformed
  | _ :: _ => .failed place .malformed

/-- The first fault in the form of a record. -/
def Record.check (scope : Scope) (record : Record) : Attempt Unit :=
  match record.layout with
  | .named members => checkMembers record.fields [] 0 members
  | .listed items =>
    let count := record.fields.length
    if count < items.length then
      .failed count (scope.formFault (.wrongLength items.length "fewer elements in array"))
    else .done ()

/-- Reads the fields of a record. -/
def Record.read (scope : Scope) (record : Record) (build : Record → Attempt α) :
    Except Fault α :=
  if scope.isSpent then .error .malformed
  else ((fun _ value => value) <$> record.check scope <*> build record).result

/-- A record with the given fields, written as an object or as the list of its fields. -/
def record (scope : Scope) (expected : String) (fields : List String)
    (build : Record → Attempt α) : Reader α := fun draft =>
  let count := fields.length
  let complete :=
    expected ++ " with " ++ toString count ++ if count = 1 then " element" else " elements"
  match draft with
  | .object members => Record.read scope ⟨complete, fields, .named members⟩ build
  | .array items => Record.read scope ⟨complete, fields, .listed items⟩ build
  | other => .error (other.mismatch expected)

/-- A record that is always written as the list of its fields. -/
def tuple (scope : Scope) (expected complete : String) (fields : List String)
    (build : Record → Attempt α) : Reader α
  | .array items => Record.read scope ⟨complete, fields, .listed items⟩ build
  | other => .error (other.mismatch expected)

/-! ## Variants -/

/-- What follows the name of a variant. -/
inductive Payload (α : Type) where
  /-- Nothing: the variant is its name. -/
  | unit (value : α)
  /-- A single value. -/
  | single (read : Reader α)
  /-- A record. -/
  | fields (read : Reader α)
  /-- A list of known length. -/
  | tuple (expected : String) (read : Reader α)

/-- The variants of a type by name. -/
abbrev Variants (α : Type) := List (String × Payload α)

/-- The payload of a name. -/
def Variants.find (variants : Variants α) (name : String) : Except Fault (Payload α) :=
  match variants.lookup name with
  | some payload => .ok payload
  | none => .error (.unknownVariant name (variants.map (·.1)))

/-- A variant written as its bare name. -/
def Payload.ofName : Payload α → Except Fault α
  | .unit value => .ok value
  | .single _ => .error (.wrongType .unitVariant "newtype variant")
  | .fields _ => .error (.wrongType .unitVariant "struct variant")
  | .tuple .. => .error (.wrongType .unitVariant "tuple variant")

/-- A variant written as its name and what follows. What follows at hand is looked over first: the
    fields of a record have to be an object, and a list has to hold something. -/
def Payload.ofMember (scope : Scope) (payload : Payload α) (draft : Draft) : Except Fault α :=
  match payload, draft with
  | .unit value, .null => .ok value
  | .unit _, other => .error (other.mismatch "unit")
  | .single read, value => read value
  | .fields read, .object members => read (.object members)
  | .fields read, other =>
    if scope.atHand then .error (other.mismatch "struct variant") else read other
  | .tuple expected read, .array items =>
    if scope.atHand && items.isEmpty then .error (.wrongType .null expected)
    else read (.array items)
  | .tuple _ read, other =>
    if scope.atHand then .error (other.mismatch "tuple variant") else read other

/-- A variant: its name, or an object with the name as its only member. -/
def variant (scope : Scope) (variants : Variants α) : Reader α
  | .text name => do (← variants.find name).ofName
  | .object members =>
    if scope.isSpent then .error .malformed
    else if scope.atHand && members.length != 1 then
      .error (.unfitValue .map "map with a single key")
    else
      match members with
      | (.text name, value) :: rest => do
        let payload ← variants.find name
        let result ← payload.ofMember scope value
        if rest.isEmpty then .ok result else .error .malformed
      | _ => .error .malformed
  | other => .error (scope.formFault (other.mismatch "string or map"))

/-- A choice among names. -/
def choice (scope : Scope) (name : α → String) (values : List α) : Reader α :=
  variant scope (values.map fun value => (name value, .unit value))

/-! ## Whole texts -/

/-- Reads a text that holds one value and nothing else. -/
def ofText (read : Reader α) (text : String) : Except Fault α :=
  let (draft, more) := Draft.ofText text
  match read draft with
  | .error fault => .error fault
  | .ok value => if more then .error .malformed else .ok value

end Read
end Wiring.Json
