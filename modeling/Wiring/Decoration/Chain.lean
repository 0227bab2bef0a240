/-
  Wiring.Decoration.Chain

  Chains: all decorators of one target, innermost first, and the services they wrap.
-/

import Wiring.Decoration.Basic
import Wiring.Service.Basic

namespace Wiring

open Json.Read (record list)

/-- The place of one decorator in a chain. -/
structure Layer where
  decorator : TypeRef
  order : Int32
  /-- Counted from 1, which wraps the implementation itself. -/
  position : Nat
  construction : Construction
  synthesized : Bool
deriving DecidableEq

/-- The decorators around every implementation of a target. -/
structure Chain where
  target : TypeRef
  /-- The names of the services that the chain wraps, each for itself. -/
  implementations : List String
  /-- Innermost first. -/
  layers : List Layer
deriving DecidableEq

namespace Decorator

/-- Inner decorators before outer ones: by their place, then by their text. -/
def innerFirst : Decorator → Decorator → Ordering :=
  compareLex (compareOn (·.order.toInt)) (compareOn (·.type.text))

/-- The decorator as a layer. -/
def layer (d : Decorator) (position : Nat) : Layer :=
  ⟨d.type, d.order, position, d.construction, d.synthesized⟩

/-- The layers of the decorators of one target, each decorator once. -/
def layers (members : List Decorator) : List Layer :=
  ((members.sortBy innerFirst).distinctOn (·.type)).zipIdx.map fun entry =>
    entry.1.layer (entry.2 + 1)

end Decorator

namespace Chain

/-- The chain of a target. -/
def of (target : TypeRef) (members : List Decorator) (services : List Service) : Chain where
  target := target
  implementations := ((services.filter (·.exposes target)).map (·.name)).sortDistinct compare
  layers := Decorator.layers members

/-- One chain for each text of a target, in the order of the texts; the target of a chain is that
    of the first decorator with the text. -/
def compose (decorators : List Decorator) (services : List Service) : List Chain :=
  ((decorators.map (·.target)).distinctOn TypeRef.text |>.sortBy (compareOn TypeRef.text)).map
    fun target =>
      Chain.of target (decorators.filter fun d => d.target.text == target.text) services

/-- The decorators from the inside. -/
def innermostFirst (c : Chain) : List TypeRef := c.layers.map (·.decorator)

/-- The decorators from the outside. -/
def outermostFirst (c : Chain) : List TypeRef := c.layers.reverse.map (·.decorator)

/-- The decorators from the outside, and an implementation inside of them. -/
def nesting (c : Chain) (implementation : String) : List String :=
  c.outermostFirst.map TypeRef.text ++ [implementation]

end Chain

/-! ## JSON -/

namespace Layer

/-- A layer as JSON. -/
def toJson (l : Layer) : Json :=
  .object [("decorator", l.decorator.toJson), ("order", .number l.order.toInt),
    ("position", .number l.position), ("constructor", l.construction.toJson),
    ("synthesized", .bool l.synthesized)]

/-- Reads a layer. -/
def read (scope : Json.Scope) : Json.Reader Layer :=
  record scope "struct ChainLink"
      ["decorator", "order", "position", "constructor", "synthesized"] fun r =>
    Layer.mk <$> r.required "decorator" (TypeRef.read scope.inner)
      <*> r.required "order" Json.Read.int32
      <*> r.required "position" Json.Read.size
      <*> r.required "constructor" (Construction.read scope.inner)
      <*> r.required "synthesized" Json.Read.bool

end Layer

namespace Chain

/-- A chain as JSON. -/
def toJson (c : Chain) : Json :=
  .object [("target", c.target.toJson), ("implementations", .texts c.implementations),
    ("links", .array (c.layers.map Layer.toJson))]

/-- Reads a chain. -/
def read (scope : Json.Scope) : Json.Reader Chain :=
  record scope "struct DecoratorChain" ["target", "implementations", "links"] fun r =>
    Chain.mk <$> r.required "target" (TypeRef.read scope.inner)
      <*> r.required "implementations" (list scope.inner Json.Read.text)
      <*> r.required "links" (list scope.inner (Layer.read scope.inner.inner))

end Chain
end Wiring
