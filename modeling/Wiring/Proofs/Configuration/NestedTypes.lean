/-
  Wiring.Proofs.Configuration.NestedTypes

  The classes inside of the properties of a class. The coercions of the properties form a tree, in
  which no class occurs inside of itself; the classes in it are exactly those that the properties of
  the declarations lead to, from one to the next.
-/

import Wiring.Proofs.Configuration.Coercion
import Wiring.Proofs.Graph.Lookup
import Mathlib.Logic.Relation

namespace Wiring

open Relation (TransGen reflTransGen_iff_eq_or_transGen)

/-! ## Types inside properties -/

theorem BoundProperty.mem_nestedTypes_iff {type : String} {properties : List BoundProperty} :
    type ∈ nestedTypes properties ↔ ∃ p ∈ properties, type ∈ p.coercion.nestedTypes := by
  induction properties with
  | nil => simp [nestedTypes]
  | cons p rest ih =>
      cases p
      simp [nestedTypes, ih]

theorem Coercion.nestedTypes_scalar? {type : TypeRef} {coercion : Coercion}
    (h : scalar? type = some coercion) : coercion.nestedTypes = [] := by
  unfold scalar? at h
  repeat' split at h
  all_goals cases h
  all_goals rfl

theorem Coercion.nestedTypes_enum? {type : TypeRef} {d : Option Declaration} {coercion : Coercion}
    (h : enum? type d = some coercion) : coercion.nestedTypes = [] := by
  unfold enum? at h
  split at h
  · rw [← Option.some.inj h]
    rfl
  · cases h

/-- A class or a record is no enumeration. -/
theorem Coercion.enum?_eq_none {type : TypeRef} {d : Declaration} (htype : type.kind = .classType)
    (hnestable : d.isNestable = true) : enum? type (some d) = none := by
  have hkind : (d.kind == .enum) = false := by
    simp only [Declaration.isNestable, Bool.and_eq_true, Bool.or_eq_true, beq_iff_eq] at hnestable
    rcases hnestable.1.1 with hclass | hrecord
    · rw [hclass]
      rfl
    · rw [hrecord]
      rfl
  unfold enum?
  rw [htype, Option.any_some, hkind]
  rfl

namespace Graph

variable {g : Graph} {visiting : List String} {type : String} {c d e : Declaration}

/-! ## From a class to those inside of it -/

/-- A settable property of the one declaration is of the class that the other one declares, and an
    object of it may be made for a section. -/
def Nests (g : Graph) (d e : Declaration) : Prop :=
  ∃ p ∈ d.settableProperties, Coercion.scalar? p.type.unwrapped.1 = none ∧
    p.type.unwrapped.1.kind = .classType ∧ p.type.unwrapped.1.args = [] ∧
    g.resolve p.type.unwrapped.1 = some e ∧ e.isNestable = true

/-- The same, for a class that is not among those named. -/
def NestsOutside (g : Graph) (visiting : List String) (d e : Declaration) : Prop :=
  g.Nests d e ∧ e.name ∉ visiting

/-- What a reference names is looked up by its own name as well. -/
theorem lookup_of_resolve {ref : TypeRef} (h : g.resolve ref = some e) :
    g.lookup e.name = some e := by
  have hlookup : g.lookup ref.name = some e := h
  rw [(answers_of_lookup hlookup).name_eq]
  exact hlookup

theorem lookup_of_nests (h : g.Nests d e) : g.lookup e.name = some e := by
  obtain ⟨p, -, -, -, -, hresolve, -⟩ := h
  exact lookup_of_resolve hresolve

theorem isNestable_of_nests (h : g.Nests d e) : e.isNestable = true := by
  obtain ⟨p, -, -, -, -, -, hnestable⟩ := h
  exact hnestable

/-- A type has a section of its own if it is of a class that can be made and is not being bound. -/
theorem coercion?_eq_nested_iff {ref : TypeRef} {properties : List BoundProperty} :
    g.coercion? visiting ref = some (.nested type properties) ↔
      ∃ e, (Coercion.scalar? ref = none ∧ ref.kind = .classType ∧ ref.args = [] ∧
          g.resolve ref = some e ∧ e.isNestable = true ∧ e.name ∉ visiting) ∧
        type = e.name ∧ properties = g.boundProperties (e.name :: visiting) e := by
  rw [coercion?_eq]
  refine ⟨fun h => ?_, ?_⟩
  · rw [Option.or_eq_some_iff, Option.or_eq_some_iff] at h
    rcases h with (hscalar | ⟨-, henum⟩) | ⟨hnone, hclass⟩
    · cases Coercion.nestedTypes_scalar? hscalar
    · cases Coercion.nestedTypes_enum? henum
    · obtain ⟨e, hresolve, hclass⟩ := Option.bind_eq_some_iff.mp hclass
      split at hclass
      · rename_i hnests
        cases hclass
        simp only [Bool.and_eq_true, Bool.not_eq_true', ← Bool.not_eq_true, List.contains_iff_mem,
          beq_iff_eq, List.isEmpty_iff] at hnests
        obtain ⟨⟨⟨hkind, hargs⟩, hnestable⟩, hnew⟩ := hnests
        have hscalar := (Option.or_eq_none_iff.mp hnone).1
        exact ⟨e, ⟨hscalar, hkind, hargs, hresolve, hnestable, hnew⟩, rfl, rfl⟩
      · cases hclass
  · rintro ⟨e, ⟨hscalar, hkind, hargs, hresolve, hnestable, hnew⟩, rfl, rfl⟩
    have hfresh : visiting.contains e.name = false := by simpa using hnew
    rw [hscalar, hresolve, Coercion.enum?_eq_none hkind hnestable, Option.none_or, Option.none_or,
      Option.bind_some, hkind, hargs, hnestable, hfresh]
    rfl

/-- The classes inside the coercion of a type: the class itself, unless it is being bound, and those
    inside of its properties. -/
theorem mem_nestedTypes_coercion?_iff {ref : TypeRef} :
    (∃ coercion, g.coercion? visiting ref = some coercion ∧ type ∈ coercion.nestedTypes) ↔
      ∃ e, (Coercion.scalar? ref = none ∧ ref.kind = .classType ∧ ref.args = [] ∧
          g.resolve ref = some e ∧ e.isNestable = true ∧ e.name ∉ visiting) ∧
        (type = e.name ∨
          type ∈ BoundProperty.nestedTypes (g.boundProperties (e.name :: visiting) e)) := by
  refine ⟨?_, ?_⟩
  · rintro ⟨coercion, hcoercion, htype⟩
    cases coercion with
    | nested name properties =>
        obtain ⟨e, hnests, rfl, rfl⟩ := coercion?_eq_nested_iff.mp hcoercion
        rw [Coercion.nestedTypes] at htype
        exact ⟨e, hnests, List.mem_cons.mp htype⟩
    | _ => cases htype
  · rintro ⟨e, hnests, htype⟩
    refine ⟨_, coercion?_eq_nested_iff.mpr ⟨e, hnests, rfl, rfl⟩, ?_⟩
    rw [Coercion.nestedTypes]
    exact List.mem_cons.mpr htype

/-- The classes inside the properties of a declaration: those that it nests, and those inside of
    their properties in turn. -/
theorem mem_nestedTypes_step :
    type ∈ BoundProperty.nestedTypes (g.boundProperties visiting d) ↔
      ∃ e, g.NestsOutside visiting d e ∧
        (type = e.name ∨
          type ∈ BoundProperty.nestedTypes (g.boundProperties (e.name :: visiting) e)) := by
  have hproperties : type ∈ BoundProperty.nestedTypes (g.boundProperties visiting d) ↔
      ∃ p ∈ d.settableProperties, ∃ coercion,
        g.coercion? visiting p.type.unwrapped.1 = some coercion ∧
          type ∈ coercion.nestedTypes := by
    rw [BoundProperty.mem_nestedTypes_iff, boundProperties]
    simp only [List.mem_filterMap, Option.map_eq_some_iff]
    refine ⟨?_, ?_⟩
    · rintro ⟨-, ⟨p, hp, coercion, hcoercion, rfl⟩, htype⟩
      exact ⟨p, hp, coercion, hcoercion, htype⟩
    · rintro ⟨p, hp, coercion, hcoercion, htype⟩
      exact ⟨_, ⟨p, hp, coercion, hcoercion, rfl⟩, htype⟩
  simp only [hproperties, mem_nestedTypes_coercion?_iff]
  refine ⟨?_, ?_⟩
  · rintro ⟨p, hp, e, ⟨hscalar, hkind, hargs, hresolve, hnestable, hnew⟩, htype⟩
    exact ⟨e, ⟨⟨p, hp, hscalar, hkind, hargs, hresolve, hnestable⟩, hnew⟩, htype⟩
  · rintro ⟨e, ⟨⟨p, hp, hscalar, hkind, hargs, hresolve, hnestable⟩, hnew⟩, htype⟩
    exact ⟨p, hp, e, ⟨hscalar, hkind, hargs, hresolve, hnestable, hnew⟩, htype⟩

/-! ## Classes at any depth -/

/-- A class that can be reached can be reached without coming back to the first class on the way. -/
theorem exists_first_of_transGen (h : TransGen (g.NestsOutside visiting) d c) :
    ∃ e, g.NestsOutside visiting d e ∧
      (e = c ∨ TransGen (g.NestsOutside (e.name :: visiting)) e c) := by
  induction h with
  | single hdc => exact ⟨_, hdc, .inl rfl⟩
  | @tail b c _ hbc ih =>
      obtain ⟨e, hde, heb⟩ := ih
      by_cases hname : c.name = e.name
      · -- Back at the first class, as a name stands for one declaration only
        have hsame := lookup_of_nests hbc.1
        rw [hname, lookup_of_nests hde.1] at hsame
        exact ⟨e, hde, .inl (Option.some.inj hsame)⟩
      · have hstep : g.NestsOutside (e.name :: visiting) b c := by
          refine ⟨hbc.1, fun hmem => ?_⟩
          rcases List.mem_cons.mp hmem with hsame | hvisiting
          · exact hname hsame
          · exact hbc.2 hvisiting
        rcases heb with rfl | heb
        · exact ⟨e, hde, .inr (.single hstep)⟩
        · exact ⟨e, hde, .inr (heb.tail hstep)⟩

/-- The classes inside the properties of a declaration are those that its properties lead to. -/
theorem mem_nestedTypes_iff (g : Graph) (visiting : List String) (d : Declaration)
    (type : String) :
    type ∈ BoundProperty.nestedTypes (g.boundProperties visiting d) ↔
      ∃ e, e.name = type ∧ TransGen (g.NestsOutside visiting) d e := by
  -- The declarations that are not being bound get fewer on the way down
  have hdeeper : ∀ e, g.NestsOutside visiting d e →
      (type ∈ BoundProperty.nestedTypes (g.boundProperties (e.name :: visiting) e) ↔
        ∃ c, c.name = type ∧ TransGen (g.NestsOutside (e.name :: visiting)) e c) := by
    intro e hde
    have hmem : e ∈ g.types := mem_types_of_lookup (lookup_of_nests hde.1)
    have hnew : visiting.contains e.name = false := by simpa using hde.2
    have hless := length_unbound_lt hmem hnew
    exact mem_nestedTypes_iff g (e.name :: visiting) e type
  rw [mem_nestedTypes_step]
  refine ⟨?_, ?_⟩
  · rintro ⟨e, hde, rfl | htype⟩
    · exact ⟨e, rfl, .single hde⟩
    · obtain ⟨c, hname, hec⟩ := (hdeeper e hde).mp htype
      have hweaker : g.NestsOutside (e.name :: visiting) ≤ g.NestsOutside visiting :=
        fun a b hab => ⟨hab.1, fun hmem => hab.2 (List.mem_cons_of_mem _ hmem)⟩
      exact ⟨c, hname, .head hde (TransGen.mono hweaker _ _ hec)⟩
  · rintro ⟨c, rfl, hdc⟩
    obtain ⟨e, hde, rfl | hec⟩ := exists_first_of_transGen hdc
    · exact ⟨e, hde, .inl rfl⟩
    · exact ⟨e, hde, .inr ((hdeeper e hde).mpr ⟨c, rfl, hec⟩)⟩
termination_by (g.unbound visiting).length

theorem lookup_of_transGen (h : TransGen (g.NestsOutside visiting) d e) :
    g.lookup e.name = some e ∧ e.isNestable = true ∧ e.name ∉ visiting := by
  obtain ⟨c, -, hce⟩ := TransGen.tail'_iff.mp h
  exact ⟨lookup_of_nests hce.1, isNestable_of_nests hce.1, hce.2⟩

/-- A class that the properties of a declaration lead to is the type of a property. -/
theorem exists_property_of_transGen (hd : d ∈ g.types)
    (h : TransGen (g.NestsOutside visiting) d e) :
    ∃ c ∈ g.types, ∃ p ∈ c.settableProperties, p.type.unwrapped.1.name = e.name := by
  obtain ⟨c, hdc, ⟨p, hp, -, -, -, hresolve, -⟩, -⟩ := TransGen.tail'_iff.mp h
  refine ⟨c, ?_, p, hp, (answers_of_lookup hresolve).name_eq.symm⟩
  -- The property belongs to the first class, or to one that is looked up on the way
  rcases reflTransGen_iff_eq_or_transGen.mp hdc with rfl | hreach
  · exact hd
  · exact mem_types_of_lookup (lookup_of_transGen hreach).1

end Graph
end Wiring
