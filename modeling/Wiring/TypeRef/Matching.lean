/-
  Wiring.TypeRef.Matching

  Replacing type parameters, and finding the replacement that turns an open reference into a
  closed one.
-/

import Wiring.TypeRef.Basic

namespace Wiring

/-- What type parameters stand for, each name once. -/
abbrev TypeBindings := List (String × TypeRef)

namespace TypeBindings

/-- Binds a name, in place of what it was bound to before. -/
def bind (bindings : TypeBindings) (name : String) (ref : TypeRef) : TypeBindings :=
  match bindings with
  | [] => [(name, ref)]
  | (other, old) :: rest =>
    if other = name then (name, ref) :: rest else (other, old) :: bind rest name ref

/-- Binds all names of `more`, in place of what they were bound to before. -/
def bindAll (bindings more : TypeBindings) : TypeBindings :=
  more.foldl (fun all binding => all.bind binding.1 binding.2) bindings

end TypeBindings

namespace TypeRef

mutual

/-- Replaces every bound type parameter by what it stands for, as a whole: a parameter's own
    arguments and mark of nullability are dropped with it. -/
def substitute (bindings : TypeBindings) : TypeRef → TypeRef
  | ⟨name, kind, args, nullable⟩ =>
    let inArgs : TypeRef := ⟨name, kind, substituteAll bindings args, nullable⟩
    if kind = .typeParameter then (bindings.lookup name).getD inArgs else inArgs

/-- Replaces the type parameters in every reference of a list. -/
def substituteAll (bindings : TypeBindings) : List TypeRef → List TypeRef
  | [] => []
  | arg :: rest => substitute bindings arg :: substituteAll bindings rest

end

mutual

/-- Matches an open reference with a closed one of the same shape, argument by argument. -/
def bindAgainst : TypeRef → TypeRef → Option TypeBindings
  | ⟨name, _, args, _⟩, ⟨name', _, args', _⟩ =>
    if name == name' && args.length == args'.length then bindArgs [] args args' else none

/-- Matches arguments with what `known` has bound so far. A parameter that is an argument itself
    stands for the same reference everywhere; what an argument binds inside it replaces what was
    bound before; an argument without parameters has to be of the same type. -/
def bindArgs (known : TypeBindings) : List TypeRef → List TypeRef → Option TypeBindings
  | arg :: args, closed :: closeds =>
    if arg.kind = .typeParameter then
      match known.lookup arg.name with
      | some bound => if bound = closed then bindArgs known args closeds else none
      | none => bindArgs (known.bind arg.name closed) args closeds
    else if arg.isOpen then
      match bindAgainst arg closed with
      | some inner => bindArgs (known.bindAll inner) args closeds
      | none => none
    else if arg.sameType closed then bindArgs known args closeds
    else none
  | _, _ => some known

end

end TypeRef
end Wiring
