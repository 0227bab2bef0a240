/-
  Wiring.Configuration.Coercion

  How the text of a configuration value becomes the value of a property. The type of the property
  decides; a class of the build is bound property by property, as a section of its own, unless it
  is being bound already.
-/

import Wiring.Graph.Basic

namespace Wiring

mutual

/-- How a configuration value becomes the value of a property. -/
inductive Coercion where
  /-- A text is taken as it is. -/
  | passthrough
  | numeric (type : String)
  | boolean
  | temporal (type : String)
  | guid
  /-- The name of a member. -/
  | enum (type : String) (members : List String)
  /-- The properties of a class, from a section of their own. -/
  | nested (type : String) (properties : List BoundProperty)

/-- A property that is bound. -/
structure BoundProperty where
  name : String
  type : TypeRef
  nullable : Bool
  /-- Only assignable while the object is initialised. -/
  initOnly : Bool
  coercion : Coercion

end

/-! ## Types with a coercion of their own -/

namespace Coercion

/-- The types that are read as numbers. -/
def numericTypes : List String :=
  ["byte", "sbyte", "short", "ushort", "int", "uint", "long", "ulong", "float", "double",
   "decimal", "i8", "i16", "i32", "i64", "i128", "u8", "u16", "u32", "u64", "u128", "isize",
   "usize", "f32", "f64", "System.Byte", "System.SByte", "System.Int16", "System.UInt16",
   "System.Int32", "System.UInt32", "System.Int64", "System.UInt64", "System.Single",
   "System.Double", "System.Decimal"]

/-- The types of yes and no. -/
def booleanTypes : List String := ["bool", "System.Boolean"]

/-- The types of dates, times and durations. -/
def temporalTypes : List String :=
  ["DateTime", "DateTimeOffset", "TimeSpan", "DateOnly", "TimeOnly", "System.DateTime",
   "System.DateTimeOffset", "System.TimeSpan", "System.DateOnly", "System.TimeOnly"]

/-- The types of identifiers that are unique everywhere. -/
def guidTypes : List String := ["Guid", "System.Guid"]

/-- The coercion of a type that the build does not have to declare. -/
def scalar? (type : TypeRef) : Option Coercion :=
  if type.kind == .string || type.name == "string" || type.name == "System.String" then
    some .passthrough
  else if numericTypes.contains type.name then some (.numeric type.name)
  else if booleanTypes.contains type.name then some .boolean
  else if temporalTypes.contains type.name then some (.temporal type.name)
  else if guidTypes.contains type.name then some .guid
  else none

/-- The coercion of an enumeration, be it referenced or declared as one. -/
def enum? (type : TypeRef) (declared : Option Declaration) : Option Coercion :=
  if type.kind == .enum || declared.any (·.kind == .enum) then
    some (.enum type.name ((declared.map (·.enumMembers)).getD []))
  else none

end Coercion

namespace TypeRef

/-- The types that hold a value or nothing. -/
def optionalTypes : List String := ["Nullable", "System.Nullable", "Option"]

/-- The type of the value, and whether there may be none. -/
def unwrapped (type : TypeRef) : TypeRef × Bool :=
  match type.args with
  | [value] => if optionalTypes.contains type.name then (value, true) else (type, type.nullable)
  | _ => (type, type.nullable)

end TypeRef

/-- Whether an object of the declared type can be made for a section. -/
def Declaration.isNestable (d : Declaration) : Bool :=
  (d.kind == .classType || d.kind == .record) && !d.isAbstract &&
    (d.hasParameterlessConstructor || d.isExtensible)

namespace Graph

/-! ## Declared types -/

/-- Entering declarations only ever enters declarations. -/
theorem mem_types_of_enter {g : Graph} {name : String} {d : Declaration} :
    ∀ (types : List Declaration) (entry : Option Declaration),
      types.foldl (g.enter name) entry = some d → d ∈ types ∨ entry = some d
  | [], _, h => .inr h
  | first :: rest, entry, h => by
    rcases mem_types_of_enter rest _ h with hmem | hentry
    · exact .inl (List.mem_cons_of_mem _ hmem)
    · unfold enter at hentry
      split at hentry
      · split at hentry
        · exact .inl (by simp [Option.some.inj hentry])
        · split at hentry
          · exact .inl (by simp [Option.some.inj hentry])
          · exact .inr hentry
      · exact .inr hentry

/-- What a name is looked up as is declared. -/
theorem mem_types_of_lookup {g : Graph} {name : String} {d : Declaration}
    (h : g.lookup name = some d) : d ∈ g.types := by
  rcases mem_types_of_enter g.types none h with hmem | hnone
  · exact hmem
  · cases hnone

/-- The declarations that are not being bound yet. -/
def unbound (g : Graph) (visiting : List String) : List Declaration :=
  g.types.filter fun d => !visiting.contains d.name

/-- Binding one more declaration leaves fewer that are not being bound. -/
theorem length_unbound_lt {g : Graph} {visiting : List String} {d : Declaration}
    (hmem : d ∈ g.types) (hnew : visiting.contains d.name = false) :
    (g.unbound (d.name :: visiting)).length < (g.unbound visiting).length := by
  have hsub : g.unbound (d.name :: visiting)
      = (g.unbound visiting).filter fun e => !(d.name :: visiting).contains e.name := by
    unfold unbound
    rw [List.filter_filter]
    apply List.filter_congr
    intro e _
    simp only [List.contains_cons, Bool.not_or]
    cases visiting.contains e.name <;> simp
  rw [hsub]
  apply List.length_filter_lt_length_iff_exists.mpr
  refine ⟨d, ?_, by simp⟩
  unfold unbound
  rw [List.mem_filter]
  exact ⟨hmem, by rw [hnew]; rfl⟩

/-- The coercion of a type, while the types named in `visiting` are being bound; `none` for a type
    without a coercion. -/
def coercion? (g : Graph) (visiting : List String) (type : TypeRef) : Option Coercion :=
  match Coercion.scalar? type with
  | some coercion => some coercion
  | none =>
    match Coercion.enum? type (g.resolve type) with
    | some coercion => some coercion
    | none =>
      match hdeclared : g.resolve type with
      | none => none
      | some d =>
        if type.kind == .classType && type.args.isEmpty && d.isNestable then
          if hnew : visiting.contains d.name then none
          else
            some <| .nested d.name <| d.settableProperties.filterMap fun p =>
              (g.coercion? (d.name :: visiting) p.type.unwrapped.1).map fun coercion =>
                ⟨p.name, p.type, p.type.unwrapped.2, p.setter == .init, coercion⟩
        else none
termination_by (g.unbound visiting).length
decreasing_by
  exact length_unbound_lt (mem_types_of_lookup hdeclared) (by simpa using hnew)

/-- The properties of a declaration that are bound. -/
def boundProperties (g : Graph) (visiting : List String) (d : Declaration) : List BoundProperty :=
  d.settableProperties.filterMap fun p =>
    (g.coercion? visiting p.type.unwrapped.1).map fun coercion =>
      ⟨p.name, p.type, p.type.unwrapped.2, p.setter == .init, coercion⟩

end Graph

/-! ## Types inside a coercion -/

mutual

/-- The classes that are bound as sections inside a coercion, itself included. -/
def Coercion.nestedTypes : Coercion → List String
  | .nested type properties => type :: BoundProperty.nestedTypes properties
  | _ => []

/-- The classes that are bound as sections inside properties. -/
def BoundProperty.nestedTypes : List BoundProperty → List String
  | [] => []
  | ⟨_, _, _, _, coercion⟩ :: rest => coercion.nestedTypes ++ BoundProperty.nestedTypes rest

end

end Wiring
