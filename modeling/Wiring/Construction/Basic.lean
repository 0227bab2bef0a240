/-
  Wiring.Construction.Basic

  How generated code constructs a type: which constructor it calls and where each argument comes
  from. Services, factories and decorators choose by rules of their own; among the constructors
  that qualify, each takes the first with the most parameters.
-/

import Wiring.Declaration.Basic
import Wiring.TypeRef.Matching

namespace Wiring

/-! ## Arguments -/

/-- Where an argument comes from. -/
inductive ArgumentSource where
  /-- The container supplies the service of the type. -/
  | service
  /-- The container supplies the instance that is registered under a key. -/
  | keyed (key : String)
  /-- The caller of a factory supplies it. -/
  | caller
  /-- It is the instance that is decorated. -/
  | inner
deriving DecidableEq

/-- An argument of a constructor. -/
structure Argument where
  name : String
  type : TypeRef
  source : ArgumentSource
deriving DecidableEq

namespace Argument

/-- The argument for a parameter, supplied by the container. -/
def injected (p : Parameter) : Argument :=
  { name := p.name, type := p.type,
    source := match p.key with
      | some key => .keyed key
      | none => .service }

/-- The argument for a parameter, supplied by a caller. -/
def fromCaller (p : Parameter) : Argument := ⟨p.name, p.type, .caller⟩

/-- The argument for a parameter that takes the decorated instance. -/
def fromInner (p : Parameter) : Argument := ⟨p.name, p.type, .inner⟩

/-- Whether the caller of a factory supplies the argument. -/
def isFromCaller (a : Argument) : Bool := a.source == .caller

/-- The argument with the type parameters in its type replaced. -/
def substitute (bindings : TypeBindings) (a : Argument) : Argument :=
  { a with type := a.type.substitute bindings }

end Argument

/-- A constructor with its arguments. -/
structure Construction where
  /-- The place among the declared constructors. -/
  index : Nat
  arguments : List Argument
deriving DecidableEq

/-! ## Choosing a constructor -/

/-- The first of the entries with the most parameters. -/
def widest {α : Type} (parameters : α → List Parameter) : List α → Option α
  | [] => none
  | entry :: rest =>
    match widest parameters rest with
    | none => some entry
    | some best =>
      if (parameters entry).length < (parameters best).length then some best else some entry

namespace Declaration

/-- Whether the container can supply the parameter: a closed class or interface that is not the
    declared type itself. -/
def canInject (d : Declaration) (p : Parameter) : Bool :=
  p.type.isResolvable && !(p.type.name == d.name)

/-- Whether the container can supply every parameter. -/
def isInjectable (d : Declaration) (c : Constructor) : Bool := c.parameters.all d.canInject

/-- The construction of a service: the container supplies every argument. -/
def construction? (d : Declaration) : Option Construction :=
  (widest (·.2.parameters) (d.effectiveConstructors.filter fun e => d.isInjectable e.2)).map
    fun e => ⟨e.1, e.2.parameters.map Argument.injected⟩

/-- The construction inside a factory: what the container cannot supply comes from the caller. -/
def factoryConstruction? (d : Declaration) : Option Construction :=
  (widest (·.2.parameters) d.effectiveConstructors).map fun e =>
    ⟨e.1, e.2.parameters.map fun p =>
      if d.canInject p then Argument.injected p else Argument.fromCaller p⟩

/-- The arguments of a constructor that decorates `target`: the first parameter of its type takes
    the decorated instance, the container supplies the others; `none` where no parameter has that
    type or the container cannot supply another. -/
def decoratorArguments (d : Declaration) (target : TypeRef) :
    List Parameter → Option (List Argument)
  | [] => none
  | p :: rest =>
    if p.type.sameType target then
      if rest.all d.canInject then some (.fromInner p :: rest.map Argument.injected) else none
    else if d.canInject p then
      (decoratorArguments d target rest).map (.injected p :: ·)
    else none

/-- The construction of a decorator of `target`. -/
def decoratorConstruction? (d : Declaration) (target : TypeRef) : Option Construction :=
  let candidates := d.effectiveConstructors.filter fun e =>
    (d.decoratorArguments target e.2.parameters).isSome
  (widest (·.2.parameters) candidates).bind fun e =>
    (d.decoratorArguments target e.2.parameters).map fun arguments => ⟨e.1, arguments⟩

end Declaration
end Wiring
