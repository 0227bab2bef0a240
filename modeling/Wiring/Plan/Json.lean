/-
  Wiring.Plan.Json

  The JSON form of plans.
-/

import Wiring.Configuration.Json
import Wiring.Diagnostic.Json
import Wiring.Json.Printer
import Wiring.Plan.Basic

namespace Wiring

open Json.Read (record choice list)

namespace BindingMode

/-- The name of a mode. -/
def name : BindingMode → String
  | .reflective => "Reflective"
  | .generated => "Generated"

/-- A mode as JSON. -/
def toJson (mode : BindingMode) : Json := .text mode.name

/-- Reads a mode. -/
def read (scope : Json.Scope) : Json.Reader BindingMode :=
  choice scope name [.reflective, .generated]

end BindingMode

namespace Plan

/-- A plan as JSON. -/
def toJson (p : Plan) : Json :=
  .object
    [("current_module", .text p.current),
     ("services", .array (p.services.map Service.toJson)),
     ("plugins", .array (p.plugins.map Plugin.toJson)),
     ("factories", .array (p.factories.map Factory.toJson)),
     ("intercepted", .array (p.proxies.map Proxy.toJson)),
     ("decorator_chains", .array (p.chains.map Chain.toJson)),
     ("configuration", .array (p.bindings.map Binding.toJson)),
     ("bootstrap_modules", .texts p.bootstrap),
     ("binding_mode", p.mode.toJson),
     ("diagnostics", .array (p.diagnostics.map Diagnostic.toJson))]

/-- The text of a plan. -/
def toText (p : Plan) : String := p.toJson.pretty

/-- The fields of a plan, in the order in which they may be listed. -/
def fieldNames : List String :=
  ["current_module", "services", "plugins", "factories", "intercepted", "decorator_chains",
   "configuration", "bootstrap_modules", "binding_mode", "diagnostics"]

/-- Reads a plan. -/
def read (scope : Json.Scope) : Json.Reader Plan :=
  record scope "struct ResolutionPlan" fieldNames fun r =>
    Plan.mk <$> r.required "current_module" Json.Read.text
      <*> r.required "services" (list scope.inner (Service.read scope.inner.inner))
      <*> r.required "plugins" (list scope.inner (Plugin.read scope.inner.inner))
      <*> r.required "factories" (list scope.inner (Factory.read scope.inner.inner))
      <*> r.required "intercepted" (list scope.inner (Proxy.read scope.inner.inner))
      <*> r.required "decorator_chains" (list scope.inner (Chain.read scope.inner.inner))
      <*> r.required "configuration" (list scope.inner (Binding.read scope.inner.inner))
      <*> r.required "bootstrap_modules" (list scope.inner Json.Read.text)
      <*> r.required "binding_mode" (BindingMode.read scope.inner)
      <*> r.required "diagnostics" (list scope.inner (Diagnostic.read scope.inner.inner))

end Plan
end Wiring
