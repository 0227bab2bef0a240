/-
  Wiring.Factory

  Factories: types of which every instance needs arguments from its caller get a generated factory,
  which asks the caller for those and the container for the rest.
-/

import Wiring.Construction.Json
import Wiring.Declaration.Json
import Wiring.Diagnostic.Basic

namespace Wiring

open Json.Read (record list orNull)

/-- A factory that is generated for a type. -/
structure Factory where
  /-- The type whose instances it makes. -/
  product : String
  moduleName : String
  /-- The qualified name of the factory itself. -/
  name : String
  /-- How long the container keeps the factory. -/
  lifetime : Lifetime
  /-- How an instance of the product is made. -/
  construction : Construction
  /-- The interfaces of the product. -/
  interfaces : List TypeRef
  location : Option SourceLocation := none
deriving DecidableEq

namespace Factory

/-- The name of the factory of a type. -/
def nameFor (product : String) : String := QualifiedName.beside product "Factory"

/-- The arguments that the caller supplies. -/
def callerArguments (f : Factory) : List Argument :=
  f.construction.arguments.filter Argument.isFromCaller

/-- The arguments that the container supplies. -/
def injectedArguments (f : Factory) : List Argument :=
  f.construction.arguments.filter fun a => !a.isFromCaller

end Factory

/-! ## Planning -/

namespace Declaration

/-- The factory of a type that generated code can construct at all. -/
def factory? (d : Declaration) (interfaces : List TypeRef) : Option Factory :=
  d.factoryConstruction?.map fun construction =>
    { product := d.name
      moduleName := d.moduleName
      name := Factory.nameFor d.name
      lifetime := .singleton
      construction
      interfaces
      location := d.location }

/-- The diagnostic for a factory that has nothing to ask its caller for. -/
def factoryDiagnostics (d : Declaration) : List Diagnostic :=
  match d.factoryConstruction? with
  | some construction =>
    if construction.arguments.any Argument.isFromCaller then []
    else [.about d .factoryUnnecessary [d.name]]
  | none => []

end Declaration

/-! ## JSON -/

namespace Factory

/-- A factory as JSON. -/
def toJson (f : Factory) : Json :=
  .object <|
    [("product", .text f.product), ("module", .text f.moduleName), ("factory_name", .text f.name),
      ("lifetime", f.lifetime.toJson), ("constructor", f.construction.toJson),
      ("interfaces", .array (f.interfaces.map TypeRef.toJson))] ++
    Json.fieldOf "location" SourceLocation.toJson f.location

/-- Reads a factory. -/
def read (scope : Json.Scope) : Json.Reader Factory :=
  record scope "struct FactoryPlan"
      ["product", "module", "factory_name", "lifetime", "constructor", "interfaces", "location"]
    fun r =>
      Factory.mk <$> r.required "product" Json.Read.text
        <*> r.required "module" Json.Read.text
        <*> r.required "factory_name" Json.Read.text
        <*> r.required "lifetime" (Lifetime.read scope.inner)
        <*> r.required "constructor" (Construction.read scope.inner)
        <*> r.required "interfaces" (list scope.inner (TypeRef.read scope.inner.inner))
        <*> r.optional "location" none (orNull (SourceLocation.read scope.inner))

end Factory
end Wiring
