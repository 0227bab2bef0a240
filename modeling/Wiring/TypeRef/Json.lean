/-
  Wiring.TypeRef.Json

  The JSON form of references. Arguments and nullability are left out where they say nothing.
-/

import Wiring.TypeRef.Basic
import Wiring.Json.Reader

namespace Wiring

/-- The name of a kind. -/
def TypeKind.name : TypeKind → String
  | .classType => "Class"
  | .interface => "Interface"
  | .struct => "Struct"
  | .enum => "Enum"
  | .primitive => "Primitive"
  | .string => "String"
  | .delegate => "Delegate"
  | .typeParameter => "TypeParameter"
  | .array => "Array"

/-- Every kind. -/
def TypeKind.all : List TypeKind :=
  [.classType, .interface, .struct, .enum, .primitive, .string, .delegate, .typeParameter, .array]

namespace TypeRef

mutual

/-- A reference as JSON. -/
def toJson : TypeRef → Json
  | ⟨name, kind, args, nullable⟩ =>
    .object <|
      [("name", .text name), ("kind", .text kind.name)] ++
      (match args with
        | [] => []
        | arg :: rest => [("args", .array (toJson arg :: toJsonAll rest))]) ++
      (if nullable then [("nullable", .bool true)] else [])

/-- References as JSON. -/
def toJsonAll : List TypeRef → List Json
  | [] => []
  | arg :: rest => toJson arg :: toJsonAll rest

end

/-- Reads a reference, given how to read its arguments. -/
def readWith (scope : Json.Scope) (args : Json.Reader (List TypeRef)) : Json.Reader TypeRef :=
  Json.Read.record scope "struct TypeRef" ["name", "kind", "args", "nullable"] fun r =>
    TypeRef.mk <$> r.required "name" Json.Read.text
      <*> r.required "kind" (Json.Read.choice scope.inner TypeKind.name TypeKind.all)
      <*> r.optional "args" [] args
      <*> r.optional "nullable" false Json.Read.bool

/-- Reads a reference where the given number of levels is left; a level of arguments is two levels
    of containers. -/
def readAt (atHand : Bool) : Nat → Json.Reader TypeRef
  | levels + 2 =>
    readWith ⟨levels + 2, atHand⟩ (Json.Read.list ⟨levels + 1, atHand⟩ (readAt atHand levels))
  | levels => readWith ⟨levels, atHand⟩ (Json.Read.list ⟨0, atHand⟩ fun _ => .error .malformed)

/-- Reads a reference. -/
def read (scope : Json.Scope) : Json.Reader TypeRef := readAt scope.atHand scope.levels

end TypeRef
end Wiring
