/-
  Wiring.Construction.Json

  The JSON form of constructions.
-/

import Wiring.Construction.Basic
import Wiring.TypeRef.Json

namespace Wiring

open Json.Read (record variant list)

namespace Argument

/-- An argument as JSON. -/
def toJson (a : Argument) : Json :=
  let fields := [("name", .text a.name), ("ty", a.type.toJson)]
  match a.source with
  | .service => .object [("Service", .object fields)]
  | .keyed key => .object [("Keyed", .object (fields ++ [("key", .text key)]))]
  | .caller => .object [("Runtime", .object fields)]
  | .inner => .object [("Inner", .object fields)]

/-- Reads an argument from a given source. -/
def readFrom (scope : Json.Scope) (name : String) (source : ArgumentSource) :
    Json.Reader Argument :=
  record scope ("struct variant ArgumentPlan::" ++ name) ["name", "ty"] fun r =>
    (fun name type => ⟨name, type, source⟩) <$> r.required "name" Json.Read.text
      <*> r.required "ty" (TypeRef.read scope.inner)

/-- Reads an argument with a key. -/
def readKeyed (scope : Json.Scope) : Json.Reader Argument :=
  record scope "struct variant ArgumentPlan::Keyed" ["name", "ty", "key"] fun r =>
    (fun name type key => ⟨name, type, .keyed key⟩) <$> r.required "name" Json.Read.text
      <*> r.required "ty" (TypeRef.read scope.inner)
      <*> r.required "key" Json.Read.text

/-- Reads an argument. -/
def read (scope : Json.Scope) : Json.Reader Argument :=
  variant scope
    [("Service", .fields (readFrom scope.inner "Service" .service)),
     ("Keyed", .fields (readKeyed scope.inner)),
     ("Runtime", .fields (readFrom scope.inner "Runtime" .caller)),
     ("Inner", .fields (readFrom scope.inner "Inner" .inner))]

end Argument

namespace Construction

/-- A construction as JSON. -/
def toJson (c : Construction) : Json :=
  .object [("index", .number c.index), ("arguments", .array (c.arguments.map Argument.toJson))]

/-- Reads a construction. -/
def read (scope : Json.Scope) : Json.Reader Construction :=
  record scope "struct ChosenConstructor" ["index", "arguments"] fun r =>
    Construction.mk <$> r.required "index" Json.Read.size
      <*> r.required "arguments" (list scope.inner (Argument.read scope.inner.inner))

end Construction
end Wiring
