/-
  Wiring.TypeRef.Basic

  References to types, as the members of a declaration mention them: a qualified name with the
  references that stand as its type arguments. A reference is open when a type parameter occurs
  in it, and closed otherwise.
-/

import Wiring.Text.QualifiedName

namespace Wiring

/-- The shape of a referenced type. -/
inductive TypeKind where
  | classType
  | interface
  | struct
  | enum
  | primitive
  | string
  | delegate
  | typeParameter
  | array
deriving DecidableEq

/-- A reference to a type; `name` is the qualified name without the arguments. -/
structure TypeRef where
  name : String
  kind : TypeKind
  args : List TypeRef := []
  nullable : Bool := false

namespace TypeRef

/-! ## Equality -/

mutual

/-- Equality of references can be decided. -/
def decEq : (a b : TypeRef) → Decidable (a = b)
  | ⟨name, kind, args, nullable⟩, ⟨name', kind', args', nullable'⟩ =>
    match decEqAll args args' with
    | isTrue hargs =>
      if h : name = name' ∧ kind = kind' ∧ nullable = nullable' then
        isTrue (by rw [hargs, h.1, h.2.1, h.2.2])
      else isFalse fun eq => h (by cases eq; exact ⟨rfl, rfl, rfl⟩)
    | isFalse hargs => isFalse fun eq => hargs (by cases eq; rfl)

/-- Equality of lists of references can be decided. -/
def decEqAll : (as bs : List TypeRef) → Decidable (as = bs)
  | [], [] => isTrue rfl
  | [], _ :: _ => isFalse nofun
  | _ :: _, [] => isFalse nofun
  | a :: as, b :: bs =>
    match decEq a b, decEqAll as bs with
    | isTrue h, isTrue hs => isTrue (by rw [h, hs])
    | isFalse h, _ => isFalse fun eq => h (by cases eq; rfl)
    | _, isFalse hs => isFalse fun eq => hs (by cases eq; rfl)

end

instance : DecidableEq TypeRef := decEq

/-! ## Views -/

/-- Last segment of the qualified name. -/
def simpleName (ref : TypeRef) : String := QualifiedName.simple ref.name

/-- The number of type arguments. -/
def arity (ref : TypeRef) : Nat := ref.args.length

mutual

/-- Whether the reference is a type parameter or mentions one in its arguments. -/
def isOpen : TypeRef → Bool
  | ⟨_, kind, args, _⟩ => kind == .typeParameter || anyOpen args

/-- Whether one of the references is open. -/
def anyOpen : List TypeRef → Bool
  | [] => false
  | arg :: rest => arg.isOpen || anyOpen rest

end

/-- Same name and number of arguments. -/
def sameShape (a b : TypeRef) : Bool := a.name == b.name && a.arity == b.arity

mutual

/-- Same name and same arguments, whatever the kinds and the marks of nullability say. -/
def sameType : TypeRef → TypeRef → Bool
  | ⟨name, _, args, _⟩, ⟨name', _, args', _⟩ => name == name' && sameTypes args args'

/-- Pairwise the same type. -/
def sameTypes : List TypeRef → List TypeRef → Bool
  | [], [] => true
  | a :: as, b :: bs => a.sameType b && sameTypes as bs
  | _, _ => false

end

/-- A class or an interface: the shapes a container can construct or resolve by itself. -/
def isReferenceType (ref : TypeRef) : Bool := ref.kind == .classType || ref.kind == .interface

/-- A closed class or interface, which the container can supply as an argument. -/
def isResolvable (ref : TypeRef) : Bool := ref.isReferenceType && !ref.isOpen

/-! ## Text -/

mutual

/-- A reference as it is written: name, arguments between angle brackets, and a question mark
    where it may be null. -/
def text : TypeRef → String
  | ⟨name, _, args, nullable⟩ =>
    name ++ argsText args ++ (if nullable then "?" else "")

/-- The arguments of a reference, nothing where there are none. -/
def argsText : List TypeRef → String
  | [] => ""
  | arg :: rest => "<" ++ arg.text ++ moreArgsText rest ++ ">"

/-- The arguments after the first. -/
def moreArgsText : List TypeRef → String
  | [] => ""
  | arg :: rest => ", " ++ arg.text ++ moreArgsText rest

end

/-! ## Common references -/

/-- A reference to a class. -/
def ofClass (name : String) : TypeRef := { name, kind := .classType }

/-- A reference to an interface. -/
def ofInterface (name : String) : TypeRef := { name, kind := .interface }

/-- A reference to a primitive type. -/
def ofPrimitive (name : String) : TypeRef := { name, kind := .primitive }

/-- A reference to an enumeration. -/
def ofEnum (name : String) : TypeRef := { name, kind := .enum }

/-- A reference to a type parameter. -/
def parameter (name : String) : TypeRef := { name, kind := .typeParameter }

/-- The reference to the type of texts. -/
def string : TypeRef := { name := "string", kind := .string }

/-- The reference with one more argument. -/
def withArg (ref arg : TypeRef) : TypeRef := { ref with args := ref.args ++ [arg] }

/-- The reference marked as nullable. -/
def orNull (ref : TypeRef) : TypeRef := { ref with nullable := true }

end TypeRef
end Wiring
