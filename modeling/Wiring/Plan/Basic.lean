/-
  Wiring.Plan.Basic

  The plan of a build: everything that is generated, in the order in which it is generated.
-/

import Wiring.Configuration.Binding
import Wiring.Decoration.Chain
import Wiring.Factory
import Wiring.Interception
import Wiring.Plan.Order

namespace Wiring

/-- How generated code binds the configuration. -/
inductive BindingMode where
  /-- A general binder finds the properties when the program runs. -/
  | reflective
  /-- Every property is spelled out. -/
  | generated
deriving DecidableEq

/-- The plan of a build. -/
structure Plan where
  /-- The name of the module that is compiled. -/
  current : String
  services : List Service := []
  plugins : List Plugin := []
  factories : List Factory := []
  proxies : List Proxy := []
  chains : List Chain := []
  bindings : List Binding := []
  /-- The referenced modules that are loaded at the start. -/
  bootstrap : List String := []
  mode : BindingMode := .reflective
  diagnostics : List Diagnostic := []

/-- Where a service stands in the order of generation. -/
def Service.placement (s : Service) : Placement := ⟨s.moduleName, s.name⟩

/-- Where a plugin stands in the order of generation. -/
def Plugin.placement (p : Plugin) : Placement := ⟨p.moduleName, p.name⟩

/-- Where a factory stands in the order of generation: by its product. -/
def Factory.placement (f : Factory) : Placement := ⟨f.moduleName, f.product⟩

/-- Where a proxy stands in the order of generation: by its service. -/
def Proxy.placement (p : Proxy) : Placement := ⟨p.moduleName, p.service⟩

namespace Binding

/-- Where a binding stands in the order of generation: by its type. -/
def placement (b : Binding) : Placement := ⟨b.moduleName, b.boundType⟩

/-- The order of bindings: those of one type by section, then by instance, the one without a name
    first. -/
def order (current : String) : Binding → Binding → Ordering :=
  compareLex (Placement.orderOn current placement) <|
    compareLex (compareOn (·.path)) (compareOn (·.instanceName))

end Binding

namespace Plan

/-- The plan with all lists but the diagnostics in their orders. -/
def inOrder (p : Plan) : Plan :=
  { p with
    services := p.services.sortBy (Placement.orderOn p.current Service.placement)
    plugins := p.plugins.sortBy (Placement.orderOn p.current Plugin.placement)
    factories := p.factories.sortBy (Placement.orderOn p.current Factory.placement)
    proxies := p.proxies.sortBy (Placement.orderOn p.current Proxy.placement)
    chains := p.chains.sortBy (compareOn (·.target.text))
    bindings := p.bindings.sortBy (Binding.order p.current)
    bootstrap := p.bootstrap.sortDistinct compare }

/-- The first service of a name. -/
def service? (p : Plan) (name : String) : Option Service := p.services.find? (·.name == name)

/-- The proxy through which a service is registered. -/
def proxyFor? (p : Plan) (service : String) : Option Proxy :=
  p.proxies.find? (·.service == service)

/-- The registrations under interfaces: type, interface and lifetime. -/
def interfaceTriples (p : Plan) : List (String × String × Lifetime) :=
  p.services.flatMap fun s => s.interfaces.map fun i => (s.name, i.text, s.lifetime)

end Plan
end Wiring
