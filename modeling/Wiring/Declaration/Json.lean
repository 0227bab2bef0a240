/-
  Wiring.Declaration.Json

  The JSON form of declarations, their members and their markers. Everything but names and types
  may be left out when read; when written, only what is empty or absent by nature is left out.
-/

import Wiring.Declaration.Basic
import Wiring.TypeRef.Json

namespace Wiring

open Json.Read (record choice variant list orNull)

/-! ## Names of the small types -/

/-- The name of an accessibility. -/
def Accessibility.name : Accessibility → String
  | .anyone => "Public"
  | .sameModule => "Internal"
  | .heirs => "Protected"
  | .owner => "Private"

/-- Reads an accessibility. -/
def Accessibility.read (scope : Json.Scope) : Json.Reader Accessibility :=
  choice scope name [.anyone, .sameModule, .heirs, .owner]

/-- The name of a kind of declaration. -/
def DeclarationKind.name : DeclarationKind → String
  | .classType => "Class"
  | .record => "Record"
  | .struct => "Struct"
  | .interface => "Interface"
  | .enum => "Enum"
  | .delegate => "Delegate"

/-- Reads a kind of declaration. -/
def DeclarationKind.read (scope : Json.Scope) : Json.Reader DeclarationKind :=
  choice scope name [.classType, .record, .struct, .interface, .enum, .delegate]

/-- The name of a way to assign a property. -/
def Setter.name : Setter → String
  | .none => "None"
  | .set => "Set"
  | .init => "Init"

/-- Reads a way to assign a property. -/
def Setter.read (scope : Json.Scope) : Json.Reader Setter := choice scope name [.none, .set, .init]

/-! ## Locations and members -/

namespace SourceLocation

/-- A location as JSON. -/
def toJson (l : SourceLocation) : Json :=
  .object [("file", .text l.file), ("line", .number l.line.toNat),
    ("column", .number l.column.toNat)]

/-- Reads a location. -/
def read (scope : Json.Scope) : Json.Reader SourceLocation :=
  record scope "struct SourceLocation" ["file", "line", "column"] fun r =>
    SourceLocation.mk <$> r.required "file" Json.Read.text
      <*> r.required "line" Json.Read.uint32
      <*> r.required "column" Json.Read.uint32

end SourceLocation

namespace Parameter

/-- A parameter as JSON. -/
def toJson (p : Parameter) : Json :=
  .object <| [("name", .text p.name), ("ty", p.type.toJson)] ++ Json.fieldOf "key" .text p.key

/-- Reads a parameter. -/
def read (scope : Json.Scope) : Json.Reader Parameter :=
  record scope "struct Parameter" ["name", "ty", "key"] fun r =>
    Parameter.mk <$> r.required "name" Json.Read.text
      <*> r.required "ty" (TypeRef.read scope.inner)
      <*> r.optional "key" none (orNull Json.Read.text)

end Parameter

namespace Constructor

/-- A constructor as JSON. -/
def toJson (c : Constructor) : Json :=
  .object [("accessibility", .text c.accessibility.name),
    ("parameters", .array (c.parameters.map Parameter.toJson))]

/-- Reads a constructor. -/
def read (scope : Json.Scope) : Json.Reader Constructor :=
  record scope "struct ConstructorCandidate" ["accessibility", "parameters"] fun r =>
    Constructor.mk <$> r.optional "accessibility" .anyone (Accessibility.read scope.inner)
      <*> r.optional "parameters" [] (list scope.inner (Parameter.read scope.inner.inner))

end Constructor

namespace Property

/-- A property as JSON. -/
def toJson (p : Property) : Json :=
  .object [("name", .text p.name), ("ty", p.type.toJson), ("is_static", .bool p.isStatic),
    ("is_indexer", .bool p.isIndexer), ("setter", .text p.setter.name)]

/-- Reads a property. -/
def read (scope : Json.Scope) : Json.Reader Property :=
  record scope "struct PropertyDecl" ["name", "ty", "is_static", "is_indexer", "setter"] fun r =>
    Property.mk <$> r.required "name" Json.Read.text
      <*> r.required "ty" (TypeRef.read scope.inner)
      <*> r.optional "is_static" false Json.Read.bool
      <*> r.optional "is_indexer" false Json.Read.bool
      <*> r.optional "setter" .set (Setter.read scope.inner)

end Property

/-! ## Markers -/

namespace SectionRequest

/-- A request for a section as JSON. -/
def toJson (s : SectionRequest) : Json :=
  .object <|
    Json.fieldOf "section" .text s.path ++ Json.fieldOf "name" .text s.instanceName ++
    [("validate_on_start", .bool s.validateOnStart)] ++
    Json.fieldOf "validator" TypeRef.toJson s.validator ++
    Json.fieldOf "validate_method" .text s.validateMethod

/-- Reads a request for a section. -/
def read (scope : Json.Scope) : Json.Reader SectionRequest :=
  record scope "struct SectionMarker"
      ["section", "name", "validate_on_start", "validator", "validate_method"] fun r =>
    SectionRequest.mk <$> r.optional "section" none (orNull Json.Read.text)
      <*> r.optional "name" none (orNull Json.Read.text)
      <*> r.optional "validate_on_start" false Json.Read.bool
      <*> r.optional "validator" none (orNull (TypeRef.read scope.inner))
      <*> r.optional "validate_method" none (orNull Json.Read.text)

end SectionRequest

namespace Marker

/-- A reference with a place in an order. -/
def placedJson (field : String) (ref : TypeRef) (place : Int32) : Json :=
  .object [(field, ref.toJson), ("order", .number place.toInt)]

/-- A marker as JSON. -/
def toJson : Marker → Json
  | .exemptFromRegistration => .text "ExemptFromRegistration"
  | .exemptFromInjection => .text "ExemptFromInjection"
  | .lifetime value => .object [("Lifetime", value.toJson)]
  | .keyed key => .object [("Keyed", .text key)]
  | .decoratorFor target place => .object [("DecoratorFor", placedJson "target" target place)]
  | .openDecoratorFor target place =>
    .object [("OpenDecoratorFor", placedJson "target" target place)]
  | .factorySource => .text "FactorySource"
  | .configurationSection request => .object [("ConfigurationSection", request.toJson)]
  | .intercept interceptor place =>
    .object [("Intercept", placedJson "interceptor" interceptor place)]
  | .pluginContract => .text "PluginContract"
  | .order value => .object [("Order", .number value.toInt)]

/-- Reads a reference with a place in an order. -/
def readPlaced (scope : Json.Scope) (name field : String) (build : TypeRef → Int32 → Marker) :
    Json.Reader Marker :=
  record scope ("struct variant Marker::" ++ name) [field, "order"] fun r =>
    build <$> r.required field (TypeRef.read scope.inner)
      <*> r.required "order" Json.Read.int32

/-- The variants, with the number of levels that are left for what follows their names. -/
def variants (scope : Json.Scope) : Json.Read.Variants Marker :=
  [("ExemptFromRegistration", .unit .exemptFromRegistration),
   ("ExemptFromInjection", .unit .exemptFromInjection),
   ("Lifetime", .single fun draft => (Lifetime.read scope draft).map .lifetime),
   ("Keyed", .single fun draft => (Json.Read.text draft).map .keyed),
   ("DecoratorFor", .fields (readPlaced scope "DecoratorFor" "target" .decoratorFor)),
   ("OpenDecoratorFor", .fields (readPlaced scope "OpenDecoratorFor" "target" .openDecoratorFor)),
   ("FactorySource", .unit .factorySource),
   ("ConfigurationSection",
     .single fun draft => (SectionRequest.read scope draft).map .configurationSection),
   ("Intercept", .fields (readPlaced scope "Intercept" "interceptor" .intercept)),
   ("PluginContract", .unit .pluginContract),
   ("Order", .single fun draft => (Json.Read.int32 draft).map .order)]

/-- Reads a marker. -/
def read (scope : Json.Scope) : Json.Reader Marker := variant scope (variants scope.inner)

end Marker

/-! ## Methods and declarations -/

namespace Method

/-- A method as JSON. -/
def toJson (m : Method) : Json :=
  .object <|
    [("name", .text m.name), ("accessibility", .text m.accessibility.name),
      ("is_static", .bool m.isStatic)] ++
    Json.fieldOf "return_type" TypeRef.toJson m.returnType ++
    [("parameters", .array (m.parameters.map Parameter.toJson)),
      ("markers", .array (m.markers.map Marker.toJson))]

/-- Reads a method. -/
def read (scope : Json.Scope) : Json.Reader Method :=
  record scope "struct MethodDecl"
      ["name", "accessibility", "is_static", "return_type", "parameters", "markers"] fun r =>
    Method.mk <$> r.required "name" Json.Read.text
      <*> r.optional "accessibility" .anyone (Accessibility.read scope.inner)
      <*> r.optional "is_static" false Json.Read.bool
      <*> r.optional "return_type" none (orNull (TypeRef.read scope.inner))
      <*> r.optional "parameters" [] (list scope.inner (Parameter.read scope.inner.inner))
      <*> r.optional "markers" [] (list scope.inner (Marker.read scope.inner.inner))

end Method

namespace Declaration

/-- A declaration as JSON. -/
def toJson (d : Declaration) : Json :=
  .object <|
    [("name", .text d.name), ("module", .text d.moduleName), ("kind", .text d.kind.name),
      ("accessibility", .text d.accessibility.name)] ++
    Json.fieldOfList "containing" (fun a : Accessibility => .text a.name) d.containing ++
    [("is_abstract", .bool d.isAbstract), ("is_static", .bool d.isStatic),
      ("is_extensible", .bool d.isExtensible)] ++
    Json.fieldOfList "type_parameters" .text d.typeParameters ++
    [("interfaces", .array (d.interfaces.map TypeRef.toJson)),
      ("constructors", .array (d.constructors.map Constructor.toJson))] ++
    Json.fieldOfList "properties" Property.toJson d.properties ++
    Json.fieldOfList "methods" Method.toJson d.methods ++
    Json.fieldOfList "enum_members" .text d.enumMembers ++
    [("markers", .array (d.markers.map Marker.toJson))] ++
    Json.fieldOf "location" SourceLocation.toJson d.location

/-- The fields of a declaration, in the order in which they may be listed. -/
def fieldNames : List String :=
  ["name", "module", "kind", "accessibility", "containing", "is_abstract", "is_static",
   "is_extensible", "type_parameters", "interfaces", "constructors", "properties", "methods",
   "enum_members", "markers", "location"]

/-- Reads a declaration. -/
def read (scope : Json.Scope) : Json.Reader Declaration :=
  record scope "struct TypeDeclaration" fieldNames fun r =>
    Declaration.mk <$> r.required "name" Json.Read.text
      <*> r.required "module" Json.Read.text
      <*> r.optional "kind" .classType (DeclarationKind.read scope.inner)
      <*> r.optional "accessibility" .anyone (Accessibility.read scope.inner)
      <*> r.optional "containing" [] (list scope.inner (Accessibility.read scope.inner.inner))
      <*> r.optional "is_abstract" false Json.Read.bool
      <*> r.optional "is_static" false Json.Read.bool
      <*> r.optional "is_extensible" false Json.Read.bool
      <*> r.optional "type_parameters" [] (list scope.inner Json.Read.text)
      <*> r.optional "interfaces" [] (list scope.inner (TypeRef.read scope.inner.inner))
      <*> r.optional "constructors" [] (list scope.inner (Constructor.read scope.inner.inner))
      <*> r.optional "properties" [] (list scope.inner (Property.read scope.inner.inner))
      <*> r.optional "methods" [] (list scope.inner (Method.read scope.inner.inner))
      <*> r.optional "enum_members" [] (list scope.inner Json.Read.text)
      <*> r.optional "markers" [] (list scope.inner (Marker.read scope.inner.inner))
      <*> r.optional "location" none (orNull (SourceLocation.read scope.inner))

end Declaration
end Wiring
