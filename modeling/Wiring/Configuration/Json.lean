/-
  Wiring.Configuration.Json

  The JSON form of bindings and coercions.
-/

import Wiring.Configuration.Binding
import Wiring.Declaration.Json

namespace Wiring

open Json.Read (record variant list)

/-! ## Coercions -/

mutual

/-- A coercion as JSON. -/
def Coercion.toJson : Coercion → Json
  | .passthrough => .text "Passthrough"
  | .numeric type => .object [("Numeric", .text type)]
  | .boolean => .text "Boolean"
  | .temporal type => .object [("Temporal", .text type)]
  | .guid => .text "Guid"
  | .enum type members =>
    .object [("Enum", .object [("type_name", .text type), ("members", .texts members)])]
  | .nested type properties =>
    .object [("Nested", .object [("type_name", .text type),
      ("properties", .array (BoundProperty.toJsonAll properties))])]

/-- A property as JSON. -/
def BoundProperty.toJson : BoundProperty → Json
  | ⟨name, type, nullable, initOnly, coercion⟩ =>
    .object [("name", .text name), ("ty", type.toJson), ("nullable", .bool nullable),
      ("init_only", .bool initOnly), ("coercion", coercion.toJson)]

/-- Properties as JSON. -/
def BoundProperty.toJsonAll : List BoundProperty → List Json
  | [] => []
  | property :: rest => property.toJson :: BoundProperty.toJsonAll rest

end

namespace Coercion

/-- Reads an enumeration. -/
def readEnum (scope : Json.Scope) : Json.Reader Coercion :=
  record scope "struct variant Coercion::Enum" ["type_name", "members"] fun r =>
    Coercion.enum <$> r.required "type_name" Json.Read.text
      <*> r.required "members" (list scope.inner Json.Read.text)

/-- Reads a class, given how to read its properties. -/
def readNested (scope : Json.Scope) (properties : Json.Reader (List BoundProperty)) :
    Json.Reader Coercion :=
  record scope "struct variant Coercion::Nested" ["type_name", "properties"] fun r =>
    Coercion.nested <$> r.required "type_name" Json.Read.text
      <*> r.required "properties" properties

/-- Reads a coercion, given how to read the properties of a class. -/
def readWith (scope : Json.Scope) (properties : Json.Reader (List BoundProperty)) :
    Json.Reader Coercion :=
  variant scope
    [("Passthrough", .unit .passthrough),
     ("Numeric", .single fun draft => (Json.Read.text draft).map .numeric),
     ("Boolean", .unit .boolean),
     ("Temporal", .single fun draft => (Json.Read.text draft).map .temporal),
     ("Guid", .unit .guid),
     ("Enum", .fields (readEnum scope.inner)),
     ("Nested", .fields (readNested scope.inner properties))]

end Coercion

namespace BoundProperty

/-- Reads a property, given how to read the properties of a class inside of it. -/
def readWith (scope : Json.Scope) (properties : Json.Reader (List BoundProperty)) :
    Json.Reader BoundProperty :=
  record scope "struct BindableProperty" ["name", "ty", "nullable", "init_only", "coercion"]
    fun r =>
      BoundProperty.mk <$> r.required "name" Json.Read.text
        <*> r.required "ty" (TypeRef.read scope.inner)
        <*> r.required "nullable" Json.Read.bool
        <*> r.required "init_only" Json.Read.bool
        <*> r.required "coercion" (Coercion.readWith scope.inner properties)

/-- Reads a property where the given number of levels is left. Four levels of containers lie
    between a property and the properties of a class inside of it: the property, the variant, its
    record and the list. -/
def readAt (atHand : Bool) : Nat → Json.Reader BoundProperty
  | levels + 4 =>
    readWith ⟨levels + 4, atHand⟩ (list ⟨levels + 1, atHand⟩ (readAt atHand levels))
  | levels =>
    readWith ⟨levels, atHand⟩ (list ⟨levels - 3, atHand⟩ fun _ => .error .malformed)

/-- Reads a property. -/
def read (scope : Json.Scope) : Json.Reader BoundProperty := readAt scope.atHand scope.levels

end BoundProperty

/-! ## Bindings -/

namespace Validator

/-- A validator as JSON. -/
def toJson : Validator → Json
  | .external type => .object [("External", type.toJson)]
  | .method name => .object [("Method", .text name)]

/-- Reads a validator. -/
def read (scope : Json.Scope) : Json.Reader Validator :=
  variant scope
    [("External", .single fun draft => (TypeRef.read scope.inner draft).map .external),
     ("Method", .single fun draft => (Json.Read.text draft).map .method)]

end Validator

namespace Binding

/-- A binding as JSON. -/
def toJson (b : Binding) : Json :=
  .object <|
    [("bound_type", .text b.boundType), ("module", .text b.moduleName), ("section", .text b.path),
      ("instance_name", Json.orNull .text b.instanceName),
      ("validate_on_start", .bool b.validateOnStart),
      ("validator", Json.orNull Validator.toJson b.validator),
      ("properties", .array (b.properties.map BoundProperty.toJson)),
      ("needs_generated_constructor", .bool b.needsConstructor)] ++
    Json.fieldOfList "property_types" .text b.propertyTypes ++
    Json.fieldOf "location" SourceLocation.toJson b.location

/-- The fields of a binding, in the order in which they may be listed. -/
def fieldNames : List String :=
  ["bound_type", "module", "section", "instance_name", "validate_on_start", "validator",
   "properties", "needs_generated_constructor", "property_types", "location"]

/-- Reads a binding. -/
def read (scope : Json.Scope) : Json.Reader Binding :=
  record scope "struct ConfigurationBinding" fieldNames fun r =>
    Binding.mk <$> r.required "bound_type" Json.Read.text
      <*> r.required "module" Json.Read.text
      <*> r.required "section" Json.Read.text
      <*> r.nullable "instance_name" Json.Read.text
      <*> r.required "validate_on_start" Json.Read.bool
      <*> r.nullable "validator" (Validator.read scope.inner)
      <*> r.required "properties" (list scope.inner (BoundProperty.read scope.inner.inner))
      <*> r.required "needs_generated_constructor" Json.Read.bool
      <*> r.optional "property_types" [] (list scope.inner Json.Read.text)
      <*> r.optional "location" none (Json.Read.orNull (SourceLocation.read scope.inner))

end Binding
end Wiring
