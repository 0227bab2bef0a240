/-
  Wiring.Graph.Json

  The JSON form of a graph: what a compiler hands over for a build.
-/

import Wiring.Graph.Basic
import Wiring.Declaration.Json
import Wiring.Json.Printer

namespace Wiring

open Json.Read (record list)

namespace CodeModule

/-- A module as JSON. -/
def toJson (m : CodeModule) : Json :=
  .object [("name", .text m.name), ("participates", .bool m.participates),
    ("types", .array (m.types.map Declaration.toJson))]

/-- Reads a module. -/
def read (scope : Json.Scope) : Json.Reader CodeModule :=
  record scope "struct ModuleDecl" ["name", "participates", "types"] fun r =>
    CodeModule.mk <$> r.required "name" Json.Read.text
      <*> r.optional "participates" false Json.Read.bool
      <*> r.optional "types" [] (list scope.inner (Declaration.read scope.inner.inner))

end CodeModule

namespace Graph

/-- A graph as JSON. -/
def toJson (g : Graph) : Json :=
  .object [("current_module", .text g.current),
    ("modules", .array (g.modules.map CodeModule.toJson))]

/-- Reads a graph. -/
def read (scope : Json.Scope) : Json.Reader Graph :=
  record scope "struct TypeGraph" ["current_module", "modules"] fun r =>
    Graph.mk <$> r.required "current_module" Json.Read.text
      <*> r.required "modules" (list scope.inner (CodeModule.read scope.inner.inner))

/-- The text of a graph. -/
def toText (g : Graph) : String := g.toJson.pretty

/-- Reads a graph from a text and checks that it is well formed. -/
def ofText (text : String) : Except Failure Graph := do
  let g ← (Json.Read.ofText (read {}) text).mapError .unreadable
  g.validate
  return g

end Graph
end Wiring
