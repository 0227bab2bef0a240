/-
  Wiring.Decoration.Basic

  Decorators wrap every implementation of an interface. An open decorator is written for an
  interface with type parameters and closed over each interface of that shape that is in use.
-/

import Wiring.Construction.Json
import Wiring.TypeRef.Order

namespace Wiring

open Json.Read (record list)

/-- A decorator of one interface. -/
structure Decorator where
  type : TypeRef
  target : TypeRef
  /-- Lower is nearer to the implementation. -/
  order : Int32
  moduleName : String
  construction : Construction
  /-- Made by closing an open decorator. -/
  synthesized : Bool := false
deriving DecidableEq

/-- A decorator of every interface of one shape, written in its own type parameters. -/
structure OpenDecorator where
  type : TypeRef
  target : TypeRef
  order : Int32
  moduleName : String
  construction : Construction
deriving DecidableEq

namespace Declaration

/-- The target of an open decorator in the type parameters of the decorator itself: its first
    interface of the shape, or else the first parameter of a constructor of the shape, or else
    the target as the marker names it. -/
def ownTarget (d : Declaration) (target : TypeRef) : TypeRef :=
  let fits (ref : TypeRef) : Bool := ref.isOpen && ref.sameShape target
  let parameterTypes := d.effectiveConstructors.flatMap fun e => e.2.parameters.map (·.type)
  ((d.interfaces.find? fits).or (parameterTypes.find? fits)).getD target

end Declaration

namespace OpenDecorator

/-- The decorator closed over a closed interface of its shape. -/
def closeOver (o : OpenDecorator) (interface : TypeRef) : Option Decorator :=
  if interface.isOpen then none
  else
    (o.target.bindAgainst interface).map fun bindings =>
      { type := o.type.substitute bindings
        target := interface
        order := o.order
        moduleName := o.moduleName
        construction :=
          ⟨o.construction.index, o.construction.arguments.map (·.substitute bindings)⟩
        synthesized := true }

/-- Closes every decorator over every closed interface, in the order of the decorators and then of
    the interfaces; of decorators with the same text over targets with the same text, the first
    is kept. -/
def closeAll (decorators : List OpenDecorator) (interfaces : List TypeRef) : List Decorator :=
  let closed := TypeRef.distinct (interfaces.filter fun i => !i.isOpen)
  (decorators.flatMap fun o => closed.filterMap o.closeOver).distinctOn fun d =>
    (d.type.text, d.target.text)

end OpenDecorator

/-! ## JSON -/

namespace Decorator

/-- A decorator as JSON. -/
def toJson (d : Decorator) : Json :=
  .object [("decorator", d.type.toJson), ("target", d.target.toJson),
    ("order", .number d.order.toInt), ("module", .text d.moduleName),
    ("constructor", d.construction.toJson), ("synthesized", .bool d.synthesized)]

/-- Reads a decorator. -/
def read (scope : Json.Scope) : Json.Reader Decorator :=
  record scope "struct DiscoveredDecorator"
      ["decorator", "target", "order", "module", "constructor", "synthesized"] fun r =>
    Decorator.mk <$> r.required "decorator" (TypeRef.read scope.inner)
      <*> r.required "target" (TypeRef.read scope.inner)
      <*> r.required "order" Json.Read.int32
      <*> r.required "module" Json.Read.text
      <*> r.required "constructor" (Construction.read scope.inner)
      <*> r.optional "synthesized" false Json.Read.bool

end Decorator

namespace OpenDecorator

/-- An open decorator as JSON. -/
def toJson (d : OpenDecorator) : Json :=
  .object [("decorator", d.type.toJson), ("target", d.target.toJson),
    ("order", .number d.order.toInt), ("module", .text d.moduleName),
    ("constructor", d.construction.toJson)]

/-- Reads an open decorator. -/
def read (scope : Json.Scope) : Json.Reader OpenDecorator :=
  record scope "struct DiscoveredOpenDecorator"
      ["decorator", "target", "order", "module", "constructor"] fun r =>
    OpenDecorator.mk <$> r.required "decorator" (TypeRef.read scope.inner)
      <*> r.required "target" (TypeRef.read scope.inner)
      <*> r.required "order" Json.Read.int32
      <*> r.required "module" Json.Read.text
      <*> r.required "constructor" (Construction.read scope.inner)

end OpenDecorator
end Wiring
