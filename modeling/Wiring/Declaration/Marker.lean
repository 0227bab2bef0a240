/-
  Wiring.Declaration.Marker

  Markers: what the author of a declaration asks of the wiring, with literal arguments.
-/

import Wiring.TypeRef.Basic
import Wiring.Lifetime

namespace Wiring

/-- The arguments of a marker that binds a type to a section of the configuration. -/
structure SectionRequest where
  /-- The section; absent, it is inferred from the name of the type. -/
  path : Option String := none
  /-- The instance to bind under a name of its own. -/
  instanceName : Option String := none
  validateOnStart : Bool := false
  /-- A type that validates the bound values. -/
  validator : Option TypeRef := none
  /-- The method that validates the bound values, `Validate` where absent. -/
  validateMethod : Option String := none
deriving DecidableEq

/-- A marker on a type or a method. -/
inductive Marker where
  /-- The type is never registered. -/
  | exemptFromRegistration
  /-- The type is never built by injection. -/
  | exemptFromInjection
  | lifetime (value : Lifetime)
  /-- The service is also registered under a key. -/
  | keyed (key : String)
  | decoratorFor (target : TypeRef) (order : Int32)
  | openDecoratorFor (target : TypeRef) (order : Int32)
  | factorySource
  | configurationSection (request : SectionRequest)
  | intercept (interceptor : TypeRef) (order : Int32)
  /-- On an interface: its implementations are plugins. -/
  | pluginContract
  /-- The place of a plugin among plugins. -/
  | order (value : Int32)
deriving DecidableEq

namespace Marker

/-- A short text for the metadata of plugins. -/
def label : Marker → String
  | .exemptFromRegistration => "ExemptFromRegistration"
  | .exemptFromInjection => "ExemptFromInjection"
  | .lifetime value => "Lifetime(" ++ value.name ++ ")"
  | .keyed key => "Keyed(" ++ key ++ ")"
  | .decoratorFor target place =>
    "DecoratorFor(" ++ target.text ++ ", " ++ toString place.toInt ++ ")"
  | .openDecoratorFor target place =>
    "OpenDecoratorFor(" ++ target.text ++ ", " ++ toString place.toInt ++ ")"
  | .factorySource => "FactorySource"
  | .configurationSection request =>
    "ConfigurationSection(" ++ request.path.getD "*" ++ ")"
  | .intercept interceptor place =>
    "Intercept(" ++ interceptor.text ++ ", " ++ toString place.toInt ++ ")"
  | .pluginContract => "PluginContract"
  | .order value => "Order(" ++ toString value.toInt ++ ")"

/-! ## Views -/

/-- The lifetime that a marker asks for. -/
def lifetime? : Marker → Option Lifetime
  | .lifetime value => some value
  | _ => none

/-- The service key that a marker gives. -/
def key? : Marker → Option String
  | .keyed key => some key
  | _ => none

/-- The place among plugins that a marker gives. -/
def order? : Marker → Option Int32
  | .order value => some value
  | _ => none

/-- The target of a decorator, with its place. -/
def decorated? : Marker → Option (TypeRef × Int32)
  | .decoratorFor target place => some (target, place)
  | _ => none

/-- The target of an open decorator, with its place. -/
def openDecorated? : Marker → Option (TypeRef × Int32)
  | .openDecoratorFor target place => some (target, place)
  | _ => none

/-- The target of a decorator of either kind. -/
def anyDecorated? : Marker → Option TypeRef
  | .decoratorFor target _ | .openDecoratorFor target _ => some target
  | _ => none

/-- The section that a marker asks for. -/
def section? : Marker → Option SectionRequest
  | .configurationSection request => some request
  | _ => none

/-- Markers under which a type is not registered as a plain service. -/
def excludesService : Marker → Bool
  | .exemptFromRegistration | .exemptFromInjection | .decoratorFor .. | .openDecoratorFor ..
  | .factorySource | .configurationSection _ => true
  | _ => false

end Marker
end Wiring
