/-
  Wiring.Declaration.Basic

  Declarations of types with their members, as a compiler reports them.
-/

import Wiring.Declaration.Marker

namespace Wiring

/-- Who may use a type or a member. -/
inductive Accessibility where
  /-- Public. -/
  | anyone
  /-- Internal to the declaring module. -/
  | sameModule
  /-- Protected: for derived types. -/
  | heirs
  /-- Private. -/
  | owner
deriving DecidableEq

/-- Usable by code in the same module. -/
def Accessibility.isWithinModule (a : Accessibility) : Bool := a == .anyone || a == .sameModule

/-- What kind of type a declaration introduces. -/
inductive DeclarationKind where
  | classType
  | record
  | struct
  | interface
  | enum
  | delegate
deriving DecidableEq

/-- The kind of a reference to a type of this kind; a record is a class. -/
def DeclarationKind.typeKind : DeclarationKind → TypeKind
  | .classType | .record => .classType
  | .struct => .struct
  | .interface => .interface
  | .enum => .enum
  | .delegate => .delegate

/-- Where a declaration stands in the source. -/
structure SourceLocation where
  file : String
  line : UInt32
  column : UInt32
deriving DecidableEq

/-- A parameter of a constructor or a method. -/
structure Parameter where
  name : String
  type : TypeRef
  /-- The key of the instance that is asked for. -/
  key : Option String := none
deriving DecidableEq

/-- A constructor. -/
structure Constructor where
  accessibility : Accessibility := .anyone
  parameters : List Parameter := []
deriving DecidableEq

namespace Constructor

/-- Whether the constructor takes no arguments. -/
def isParameterless (c : Constructor) : Bool := c.parameters.isEmpty

/-- Whether generated code may call the constructor. -/
def isCallable (c : Constructor) : Bool := c.accessibility.isWithinModule

end Constructor

/-- How a property can be assigned. -/
inductive Setter where
  | none
  | set
  /-- Only while the object is initialised. -/
  | init
deriving DecidableEq

/-- A property. -/
structure Property where
  name : String
  type : TypeRef
  isStatic : Bool := false
  isIndexer : Bool := false
  setter : Setter := .set
deriving DecidableEq

/-- A property that configuration can assign. -/
def Property.isSettable (p : Property) : Bool := !p.isStatic && !p.isIndexer && p.setter != .none

/-- A method. -/
structure Method where
  name : String
  accessibility : Accessibility := .anyone
  isStatic : Bool := false
  returnType : Option TypeRef := none
  parameters : List Parameter := []
  markers : List Marker := []
deriving DecidableEq

/-- A declaration of a type. -/
structure Declaration where
  /-- Qualified name. -/
  name : String
  /-- The module that declares the type. -/
  moduleName : String
  kind : DeclarationKind := .classType
  accessibility : Accessibility := .anyone
  /-- The accessibility of the enclosing types, outermost first. -/
  containing : List Accessibility := []
  isAbstract : Bool := false
  isStatic : Bool := false
  /-- Open for generated members. -/
  isExtensible : Bool := false
  typeParameters : List String := []
  interfaces : List TypeRef := []
  constructors : List Constructor := []
  properties : List Property := []
  methods : List Method := []
  enumMembers : List String := []
  markers : List Marker := []
  location : Option SourceLocation := none
deriving DecidableEq

namespace Declaration

/-- Last segment of the qualified name. -/
def simpleName (d : Declaration) : String := QualifiedName.simple d.name

/-- The declaration as a reference, with its own type parameters as arguments. -/
def toRef (d : Declaration) : TypeRef where
  name := d.name
  kind := d.kind.typeKind
  args := d.typeParameters.map TypeRef.parameter

/-- A class or record of which there can be instances. -/
def isConcreteClass (d : Declaration) : Bool :=
  (d.kind == .classType || d.kind == .record) && !d.isAbstract && !d.isStatic

/-- The accessibility of the type and of everything around it. -/
def accessChain (d : Declaration) : List Accessibility := d.accessibility :: d.containing

/-- Usable from every module. -/
def isPublic (d : Declaration) : Bool := d.accessChain.all (· == .anyone)

/-- Usable from generated code that is compiled into the same module. -/
def isWithinModule (d : Declaration) : Bool := d.accessChain.all Accessibility.isWithinModule

/-- The declared constructors that generated code may call, with their places. -/
def callableConstructors (d : Declaration) : List (Nat × Constructor) :=
  (d.constructors.zipIdx.map fun entry => (entry.2, entry.1)).filter fun entry =>
    entry.2.isCallable

/-- Whether an instance can be made without arguments. A type without declared constructors has
    an implicit one. -/
def hasParameterlessConstructor (d : Declaration) : Bool :=
  d.constructors.isEmpty || d.callableConstructors.any fun entry => entry.2.isParameterless

/-- The constructors that generated code may call, the implicit one where none is declared. -/
def effectiveConstructors (d : Declaration) : List (Nat × Constructor) :=
  if d.constructors.isEmpty then [(0, {})] else d.callableConstructors

/-- The lifetime asked for by the last lifetime marker, a singleton without one. -/
def lifetime (d : Declaration) : Lifetime :=
  (d.markers.filterMap Marker.lifetime?).getLast?.getD .singleton

/-- The properties that configuration can assign. -/
def settableProperties (d : Declaration) : List Property := d.properties.filter Property.isSettable

/-! ## Assembling a declaration -/

/-- A public class without members. -/
def ofClass (moduleName name : String) : Declaration := { name, moduleName }

/-- A public interface. -/
def ofInterface (moduleName name : String) : Declaration :=
  { name, moduleName, kind := .interface, isAbstract := true }

/-- A public enumeration. -/
def ofEnum (moduleName name : String) (members : List String) : Declaration :=
  { name, moduleName, kind := .enum, enumMembers := members }

/-- Puts the type into one more enclosing type, inside those it is in already. -/
def nestedIn (d : Declaration) (a : Accessibility) : Declaration :=
  { d with containing := d.containing ++ [a] }

/-- Adds an interface behind those declared. -/
def implementing (d : Declaration) (interface : TypeRef) : Declaration :=
  { d with interfaces := d.interfaces ++ [interface] }

/-- Adds a type parameter behind those declared. -/
def withTypeParameter (d : Declaration) (name : String) : Declaration :=
  { d with typeParameters := d.typeParameters ++ [name] }

/-- Adds a constructor behind those declared. -/
def withConstructor (d : Declaration) (c : Constructor) : Declaration :=
  { d with constructors := d.constructors ++ [c] }

/-- Adds a property behind those declared. -/
def withProperty (d : Declaration) (p : Property) : Declaration :=
  { d with properties := d.properties ++ [p] }

/-- Adds a method behind those declared. -/
def withMethod (d : Declaration) (m : Method) : Declaration :=
  { d with methods := d.methods ++ [m] }

/-- Adds a marker behind those declared. -/
def withMarker (d : Declaration) (m : Marker) : Declaration :=
  { d with markers := d.markers ++ [m] }

end Declaration
end Wiring
