/-
  Wiring.Survey.Findings

  What a survey finds: the services, plugins, decorators, factories, proxies and bindings that the
  declarations of a module ask for, and the diagnostics of what they ask for in vain.
-/

import Wiring.Configuration.Binding
import Wiring.Factory
import Wiring.Listing.Outcomes
import Wiring.Service.Basic
import Wiring.Survey.Basic

namespace Wiring

/-- What is found in a module, or in several. -/
structure Findings where
  /-- The module; empty where the findings are those of several modules. -/
  moduleName : String := ""
  services : List Service := []
  plugins : List Plugin := []
  decorators : List Decorator := []
  openDecorators : List OpenDecorator := []
  factories : List Factory := []
  proxies : List Proxy := []
  bindings : List Binding := []
  diagnostics : List Diagnostic := []

/-- All findings together, in the order given. -/
def Findings.join (moduleName : String) (parts : List Findings) : Findings where
  moduleName := moduleName
  services := parts.flatMap (·.services)
  plugins := parts.flatMap (·.plugins)
  decorators := parts.flatMap (·.decorators)
  openDecorators := parts.flatMap (·.openDecorators)
  factories := parts.flatMap (·.factories)
  proxies := parts.flatMap (·.proxies)
  bindings := parts.flatMap (·.bindings)
  diagnostics := parts.flatMap (·.diagnostics)

/-! ## Decorators of one declaration -/

namespace Declaration

/-- A diagnostic that names the decorator and its target. -/
def decorationProblem (d : Declaration) (problem : Problem) (target : TypeRef) : Diagnostic :=
  .about d problem [d.name, target.text]

/-- The decorator of a target, or why there is none. -/
def decorator (d : Declaration) (target : TypeRef) (place : Int32) :
    Except Diagnostic Decorator :=
  match d.decoratorConstruction? target with
  | some construction =>
    .ok { type := d.toRef, target, order := place, moduleName := d.moduleName, construction }
  | none => .error (d.decorationProblem .decoratorMissingInner target)

/-- The open decorator of a target, or why there is none. -/
def openDecorator (d : Declaration) (target : TypeRef) (place : Int32) :
    Except Diagnostic OpenDecorator :=
  if target.isOpen then
    let own := d.ownTarget target
    match d.decoratorConstruction? own with
    | some construction =>
      .ok { type := d.toRef, target := own, order := place, moduleName := d.moduleName,
            construction }
    | none => .error (d.decorationProblem .decoratorMissingInner target)
  else .error (d.decorationProblem .openDecoratorTargetClosed target)

/-- The outcome for each decorator that the markers ask for. -/
def decorators (d : Declaration) : List (Except Diagnostic Decorator) :=
  (d.markers.filterMap Marker.decorated?).map fun entry => d.decorator entry.1 entry.2

/-- The outcome for each open decorator that the markers ask for. -/
def openDecorators (d : Declaration) : List (Except Diagnostic OpenDecorator) :=
  (d.markers.filterMap Marker.openDecorated?).map fun entry => d.openDecorator entry.1 entry.2

/-- The diagnostics for decorators of a type without instances. -/
def unconstructibleDecorators (d : Declaration) : List Diagnostic :=
  (d.markers.filterMap Marker.anyDecorated?).map
    (d.decorationProblem .decoratorNotConstructible)

/-- The service keys that the markers give, each once. -/
def serviceKeys (d : Declaration) : List String :=
  (d.markers.filterMap Marker.key?).distinctOn id

end Declaration

/-! ## The findings of a declaration -/

namespace Survey

variable (s : Survey)

/-- The service of a declaration. -/
def service? (d : Declaration) : Option Service :=
  d.construction?.map fun construction =>
    { name := d.name
      moduleName := d.moduleName
      construction
      lifetime := d.lifetime
      interfaces := s.exposedInterfaces d
      keys := d.serviceKeys
      location := d.location }

/-- The plugin of a declaration. -/
def pluginOf (d : Declaration) : Plugin where
  name := d.name
  moduleName := d.moduleName
  interfaces := s.pluginInterfaces d
  markers := d.markers.map Marker.label
  order := (d.markers.filterMap Marker.order?).getLast?
  location := d.location

/-- What a declaration contributes in a role. -/
def contribution (d : Declaration) : Role → Findings
  | .service => { services := (s.service? d).toList }
  | .plugin => { plugins := [s.pluginOf d] }
  | .decorator => { decorators := d.decorators.successes, diagnostics := d.decorators.failures }
  | .openDecorator =>
    { openDecorators := d.openDecorators.successes, diagnostics := d.openDecorators.failures }
  | .factorySource =>
    { factories := (d.factory? (s.exposedInterfaces d)).toList
      diagnostics := d.factoryDiagnostics }
  | .configuration =>
    { bindings := d.bindings s.graph, diagnostics := d.bindingDiagnostics }
  | .intercepted =>
    { proxies := (d.proxy? (s.exposedInterfaces d)).toList
      diagnostics := d.proxyDiagnostics (s.exposedInterfaces d) }

/-- The diagnostics for decorators that no role takes up. -/
def lostDecorators (d : Declaration) : Findings where
  diagnostics :=
    if s.admits d && !d.isConcreteClass then d.unconstructibleDecorators else []

/-- What is found in a declaration: role by role, behind the decorators that are lost. -/
def findingsIn (d : Declaration) : List Findings :=
  s.lostDecorators d :: (s.roles d).map (s.contribution d)

/-- What is found in a module. -/
def findings (m : CodeModule) : Findings :=
  .join m.name (m.types.flatMap s.findingsIn)

/-! ## Checks across modules -/

/-- The diagnostics for candidates in scanned modules that generated code cannot reach. -/
def inaccessibleCandidates : List Diagnostic :=
  ((s.graph.scanned.flatMap (·.types)).filter fun d => s.isCandidate d && !s.reaches d).map
    fun d => .about d .inaccessibleCandidate [d.name, d.moduleName]

/-- The diagnostic for a module that holds plugins and takes no part in the build. -/
def silentPlugins (m : CodeModule) : Option Diagnostic :=
  match m.types.filter s.isPluginCandidate with
  | [] => none
  | first :: rest =>
    some <| .of .moduleNotParticipating [m.name, first.name, toString (rest.length + 1)]
      (.codeModule m.name)

/-- One diagnostic for each module that holds plugins and takes no part in the build. -/
def silentModules : List Diagnostic := s.graph.silent.filterMap s.silentPlugins

/-- The diagnostics of all checks. -/
def check : List Diagnostic := s.inaccessibleCandidates ++ s.silentModules

end Survey
end Wiring
