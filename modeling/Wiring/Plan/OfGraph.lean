/-
  Wiring.Plan.OfGraph

  Planning a build: the scanned modules are surveyed one by one; what needs all of them at once,
  closing open decorators, composing chains, dropping nested bindings and the checks across
  modules, comes afterwards.
-/

import Wiring.Plan.Basic
import Wiring.Survey.Findings

namespace Wiring

namespace Survey

variable (s : Survey)

/-- The modules that are planned, in the order of generation. -/
def plannedModules : List CodeModule :=
  s.graph.scanned.sortBy (Placement.orderOn s.graph.current fun m => ⟨m.name, ""⟩)

/-- What is found in all planned modules. -/
def allFindings : Findings := .join "" (s.plannedModules.map s.findings)

end Survey

namespace Findings

/-- The decorators that are applied: those found, and the open ones found, closed over the
    interfaces of the services. -/
def closedDecorators (f : Findings) : List Decorator :=
  f.decorators ++ OpenDecorator.closeAll f.openDecorators (f.services.flatMap (·.interfaces))

/-- The chains of decorators around the services. -/
def chains (f : Findings) : List Chain := Chain.compose f.closedDecorators f.services

end Findings

namespace Survey

variable (s : Survey)

/-- The plan for a graph that is well formed. -/
def plan : Plan :=
  let found := s.allFindings
  Plan.inOrder {
    current := s.graph.current
    services := found.services
    plugins := found.plugins
    factories := found.factories
    proxies := found.proxies
    chains := found.chains
    bindings := Binding.removeNested found.bindings
    bootstrap := s.graph.participating.map (·.name)
    mode := if s.options.aot then .generated else .reflective
    diagnostics := Diagnostic.inOrder (found.diagnostics ++ s.check) }

end Survey

/-- Plans the build that a graph describes. -/
def Graph.plan (g : Graph) (options : Options) : Except Failure Plan := do
  g.validate
  return Survey.plan ⟨g, options⟩

end Wiring
