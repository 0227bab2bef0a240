/-
  Wiring.Json.Fault

  Why a JSON text cannot be read as a value of some shape, and how that is said.
-/

import Wiring.Json.Numeral
import Wiring.Text.Literal

namespace Wiring.Json

/-- What a text holds in a place where something else is expected. -/
inductive Found where
  | null
  | bool (value : Bool)
  | integer (value : Int)
  | float (negative : Bool) (magnitude : Binary64)
  | text (value : String)
  | sequence
  | map
  /-- The bare name of a variant. -/
  | unitVariant
deriving DecidableEq

/-- The first fault of a text. -/
inductive Fault where
  /-- The text is no JSON, or is nested too deeply, or breaks the form of a container. -/
  | malformed
  | wrongType (found : Found) (expected : String)
  /-- A value of the right type that is none of those expected. -/
  | unfitValue (found : Found) (expected : String)
  | wrongLength (length : Nat) (expected : String)
  | missingField (name : String)
  | duplicateField (name : String)
  | unknownVariant (name : String) (known : List String)
deriving DecidableEq

/-- How a value in the wrong place is named. -/
def Found.describe : Found → String
  | .null => "null"
  | .bool true => "boolean `true`"
  | .bool false => "boolean `false`"
  | .integer value => "integer `" ++ toString value ++ "`"
  | .float negative magnitude =>
    "floating point `" ++ (if negative then "-" else "") ++ magnitude.toText ++ "`"
  | .text value => "string " ++ Text.literal value
  | .sequence => "sequence"
  | .map => "map"
  | .unitVariant => "unit variant"

/-- A choice of names: one name, two names, or a list. -/
def describeChoice : List String → String
  | [] => "there are no variants"
  | [one] => "expected `" ++ one ++ "`"
  | [one, two] => "expected `" ++ one ++ "` or `" ++ two ++ "`"
  | names => "expected one of " ++ ", ".intercalate (names.map fun name => "`" ++ name ++ "`")

/-- A fault in words. -/
def Fault.message : Fault → String
  | .malformed => "malformed text"
  | .wrongType found expected => "invalid type: " ++ found.describe ++ ", expected " ++ expected
  | .unfitValue found expected =>
    "invalid value: " ++ found.describe ++ ", expected " ++ expected
  | .wrongLength length expected =>
    "invalid length " ++ toString length ++ ", expected " ++ expected
  | .missingField name => "missing field `" ++ name ++ "`"
  | .duplicateField name => "duplicate field `" ++ name ++ "`"
  | .unknownVariant name known => "unknown variant `" ++ name ++ "`, " ++ describeChoice known

end Wiring.Json
