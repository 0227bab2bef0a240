/-
  Wiring.Service.Basic

  What a build registers: services, and plugins that are made on demand.
-/

import Wiring.Construction.Json
import Wiring.Declaration.Json
import Wiring.Service.Key

namespace Wiring

open Json.Read (record list orNull)

/-- A type that the container constructs. -/
structure Service where
  name : String
  moduleName : String
  construction : Construction
  lifetime : Lifetime
  /-- The interfaces under which it is registered. -/
  interfaces : List TypeRef
  /-- The service keys under which it is registered as well. -/
  keys : List String := []
  location : Option SourceLocation := none
deriving DecidableEq

namespace Service

/-- All keys under which the service is registered. -/
def registrationKeys (s : Service) : List RegistrationKey :=
  RegistrationKey.of s.name (s.interfaces.map TypeRef.text) s.keys

/-- Whether the service is registered under an interface of this type. -/
def exposes (s : Service) (target : TypeRef) : Bool := s.interfaces.any (·.sameType target)

/-- The fields of the JSON form. -/
def jsonFields (s : Service) : List (String × Json) :=
  [("name", .text s.name), ("module", .text s.moduleName), ("constructor", s.construction.toJson),
    ("lifetime", s.lifetime.toJson), ("interfaces", .array (s.interfaces.map TypeRef.toJson))] ++
  Json.fieldOfList "keys" .text s.keys ++
  Json.fieldOf "location" SourceLocation.toJson s.location

/-- A service as JSON. -/
def toJson (s : Service) : Json := .object s.jsonFields

/-- Reads a service. -/
def read (scope : Json.Scope) : Json.Reader Service :=
  record scope "struct DiscoveredService"
      ["name", "module", "constructor", "lifetime", "interfaces", "keys", "location"] fun r =>
    Service.mk <$> r.required "name" Json.Read.text
      <*> r.required "module" Json.Read.text
      <*> r.required "constructor" (Construction.read scope.inner)
      <*> r.required "lifetime" (Lifetime.read scope.inner)
      <*> r.required "interfaces" (list scope.inner (TypeRef.read scope.inner.inner))
      <*> r.optional "keys" [] (list scope.inner Json.Read.text)
      <*> r.optional "location" none (orNull (SourceLocation.read scope.inner))

end Service

/-- A type that is made on demand, without arguments. -/
structure Plugin where
  name : String
  moduleName : String
  /-- The plugin interfaces among its interfaces. -/
  interfaces : List TypeRef
  /-- The labels of its markers. -/
  markers : List String
  order : Option Int32 := none
  location : Option SourceLocation := none
deriving DecidableEq

namespace Plugin

/-- A plugin as JSON. -/
def toJson (p : Plugin) : Json :=
  .object <|
    [("name", .text p.name), ("module", .text p.moduleName),
      ("interfaces", .array (p.interfaces.map TypeRef.toJson)), ("markers", .texts p.markers)] ++
    Json.fieldOf "order" (fun n : Int32 => .number n.toInt) p.order ++
    Json.fieldOf "location" SourceLocation.toJson p.location

/-- Reads a plugin. -/
def read (scope : Json.Scope) : Json.Reader Plugin :=
  record scope "struct DiscoveredPlugin"
      ["name", "module", "interfaces", "markers", "order", "location"] fun r =>
    Plugin.mk <$> r.required "name" Json.Read.text
      <*> r.required "module" Json.Read.text
      <*> r.required "interfaces" (list scope.inner (TypeRef.read scope.inner.inner))
      <*> r.required "markers" (list scope.inner Json.Read.text)
      <*> r.optional "order" none (orNull Json.Read.int32)
      <*> r.optional "location" none (orNull (SourceLocation.read scope.inner))

end Plugin
end Wiring
