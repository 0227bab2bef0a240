/-
  Wiring.Survey.Basic

  A survey of a graph under given options: which declarations the wiring is about, and the roles
  that each of them plays.
-/

import Wiring.Construction.Basic
import Wiring.Decoration.Basic
import Wiring.Graph.Basic
import Wiring.Interception
import Wiring.Options.Basic

namespace Wiring

/-- A role of a declaration. -/
inductive Role where
  /-- The container constructs it. -/
  | service
  /-- It is made on demand, without arguments. -/
  | plugin
  | decorator
  | openDecorator
  /-- A factory makes its instances. -/
  | factorySource
  /-- A section of the configuration fills it. -/
  | configuration
  /-- It is a service behind a proxy. -/
  | intercepted
deriving DecidableEq

/-- Every role, in the order in which the roles of a declaration are listed. -/
def Role.all : List Role :=
  [.service, .plugin, .decorator, .openDecorator, .factorySource, .configuration, .intercepted]

/-- The name of a role. -/
def Role.name : Role → String
  | .service => "Service"
  | .plugin => "Plugin"
  | .decorator => "Decorator"
  | .openDecorator => "OpenDecorator"
  | .factorySource => "FactorySource"
  | .configuration => "Configuration"
  | .intercepted => "Intercepted"

/-- A graph with the options under which it is wired. -/
structure Survey where
  graph : Graph
  options : Options

namespace Survey

variable (s : Survey)

/-! ## Interfaces -/

/-- Whether the implementations of an interface are plugins, by its name. -/
def isPluginInterface (ref : TypeRef) : Bool :=
  s.graph.pluginContracts.contains ref.name || s.options.pluginInterfaces.contains ref.name

/-- Whether nothing is registered under an interface, by its name. -/
def isIgnored (ref : TypeRef) : Bool := s.options.ignoredInterfaces.contains ref.name

/-- Whether a declaration implements a plugin interface. -/
def isPluginShaped (d : Declaration) : Bool := d.interfaces.any s.isPluginInterface

/-- The interfaces under which a service is registered: the closed ones that are neither plugin
    interfaces nor ignored, of those with the same text the first. -/
def exposedInterfaces (d : Declaration) : List TypeRef :=
  (d.interfaces.filter fun i => !i.isOpen && !s.isPluginInterface i && !s.isIgnored i).distinctOn
    TypeRef.text

/-- The plugin interfaces of a declaration, of those with the same text the first. -/
def pluginInterfaces (d : Declaration) : List TypeRef :=
  (d.interfaces.filter s.isPluginInterface).distinctOn TypeRef.text

/-! ## Eligibility -/

/-- Whether the declaration lies in a namespace that is planned. -/
def covers (d : Declaration) : Bool := s.options.coversName d.name

/-- Whether code that is generated into the current module can name the declaration. -/
def reaches (d : Declaration) : Bool :=
  if s.graph.isCurrent d.moduleName then d.isWithinModule else d.isPublic

/-- Whether the declaration is one that the wiring is about. -/
def admits (d : Declaration) : Bool := s.covers d && s.reaches d

/-- Whether the container could construct the type, be it reachable or not. -/
def isInjectableCandidate (d : Declaration) : Bool :=
  d.isConcreteClass && d.typeParameters.isEmpty && !d.markers.any Marker.excludesService &&
    !s.isPluginShaped d && d.construction?.isSome

/-- Whether the type could be a plugin, be it reachable or not. -/
def isPluginCandidate (d : Declaration) : Bool :=
  d.isConcreteClass && d.typeParameters.isEmpty && !d.markers.contains .exemptFromRegistration &&
    d.hasParameterlessConstructor && s.isPluginShaped d

/-- Whether the type could be either, in a namespace that is planned. -/
def isCandidate (d : Declaration) : Bool :=
  s.covers d && (s.isInjectableCandidate d || s.isPluginCandidate d)

/-! ## Roles -/

/-- Whether the shape of a declaration fits a role. -/
def fits (d : Declaration) : Role → Bool
  | .service => s.isInjectableCandidate d
  | .plugin => s.isPluginCandidate d
  | .decorator => d.markers.any (·.decorated?.isSome) && d.isConcreteClass
  | .openDecorator => d.markers.any (·.openDecorated?.isSome) && d.isConcreteClass
  | .factorySource => d.markers.contains .factorySource && d.isConcreteClass
  | .configuration => d.markers.any (·.section?.isSome)
  | .intercepted => s.isInjectableCandidate d && d.hasInterceptors

/-- Whether a declaration plays a role. -/
def plays (d : Declaration) (role : Role) : Bool := s.admits d && s.fits d role

/-- The roles that a declaration plays. -/
def roles (d : Declaration) : List Role := Role.all.filter (s.plays d)

end Survey
end Wiring
