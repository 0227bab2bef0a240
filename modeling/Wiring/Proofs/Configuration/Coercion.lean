/-
  Wiring.Proofs.Configuration.Coercion

  What the coercion of a type reads of a graph: the declarations of the names that it comes across
  on its way through the properties. Two graphs in which these names stand for declarations that are
  bound alike give every type the same coercion.
-/

import Wiring.Configuration.Coercion
import Mathlib.Data.List.Basic

namespace Wiring

/-- Two declarations of a name are bound alike: what a coercion reads of them is the same. -/
structure Declaration.BindsAlike (d e : Declaration) : Prop where
  name : d.name = e.name
  kind : d.kind = e.kind
  members : d.enumMembers = e.enumMembers
  nestable : d.isNestable = e.isNestable
  properties : d.settableProperties = e.settableProperties

instance (d e : Declaration) : Decidable (d.BindsAlike e) :=
  decidable_of_iff
    (d.name = e.name ∧ d.kind = e.kind ∧ d.enumMembers = e.enumMembers ∧
      d.isNestable = e.isNestable ∧ d.settableProperties = e.settableProperties)
    ⟨fun ⟨hname, hkind, hmembers, hnestable, hproperties⟩ =>
        ⟨hname, hkind, hmembers, hnestable, hproperties⟩,
      fun ⟨hname, hkind, hmembers, hnestable, hproperties⟩ =>
        ⟨hname, hkind, hmembers, hnestable, hproperties⟩⟩

namespace Graph

/-- The coercion of a type: its own, or that of an enumeration, or else that of a class that is not
    being bound yet. -/
theorem coercion?_eq (g : Graph) (visiting : List String) (type : TypeRef) :
    g.coercion? visiting type =
      ((Coercion.scalar? type).or (Coercion.enum? type (g.resolve type))).or
        ((g.resolve type).bind fun d =>
          if type.kind == .classType && type.args.isEmpty && d.isNestable &&
              !visiting.contains d.name then
            some (.nested d.name (g.boundProperties (d.name :: visiting) d))
          else none) := by
  rw [coercion?]
  cases hscalar : Coercion.scalar? type with
  | some coercion => rfl
  | none =>
      cases henum : Coercion.enum? type (g.resolve type) with
      | some coercion => simp
      | none =>
          simp only [Option.or_none, Option.none_or]
          split
          · rename_i hnone
            rw [hnone, Option.bind_none]
          · rename_i d hd
            rw [hd, Option.bind_some]
            split
            · rename_i hclass
              rw [hclass, Bool.true_and]
              -- A class, unless it is being bound already
              cases hnew : visiting.contains d.name <;> rfl
            · rename_i hother
              rw [Bool.not_eq_true] at hother
              rw [hother, Bool.false_and]
              rfl

/-! ## Two graphs -/

variable {g g' : Graph}

theorem enum?_eq_of_rel {type : TypeRef} {d d' : Option Declaration}
    (h : Option.Rel Declaration.BindsAlike d d') :
    Coercion.enum? type d = Coercion.enum? type d' := by
  cases h with
  | none => rfl
  | some halike =>
      unfold Coercion.enum?
      rw [Option.any_some, Option.any_some, Option.map_some, Option.map_some, halike.kind,
        halike.members]

theorem boundProperties_congr {visiting : List String} {d d' : Declaration}
    (hproperties : d.settableProperties = d'.settableProperties)
    (hcoercions : ∀ p ∈ d.settableProperties,
      g.coercion? visiting p.type.unwrapped.1 = g'.coercion? visiting p.type.unwrapped.1) :
    g.boundProperties visiting d = g'.boundProperties visiting d' := by
  unfold boundProperties
  rw [← hproperties]
  refine List.filterMap_congr fun p hp => ?_
  rw [hcoercions p hp]

/-- Two graphs in which the names that lead from one to the next stand for declarations that are
    bound alike give the types of these names the same coercions. -/
theorem coercion?_eq_of_rel {names : String → Prop}
    (hlookup : ∀ name, names name →
      Option.Rel Declaration.BindsAlike (g.lookup name) (g'.lookup name))
    (hleads : ∀ name d, names name → g.lookup name = some d →
      ∀ p ∈ d.settableProperties, names p.type.unwrapped.1.name)
    (visiting : List String) (type : TypeRef) (hname : names type.name) :
    g.coercion? visiting type = g'.coercion? visiting type := by
  rw [coercion?_eq g, coercion?_eq g', resolve, resolve, enum?_eq_of_rel (hlookup _ hname)]
  congr 1
  have hrel := hlookup type.name hname
  generalize hfound : g.lookup type.name = found at hrel ⊢
  generalize g'.lookup type.name = found' at hrel ⊢
  cases hrel with
  | none => rfl
  | @some d d' halike =>
      rw [Option.bind_some, Option.bind_some, ← halike.name, ← halike.nestable]
      refine ite_congr rfl (fun hclass => ?_) fun _ => rfl
      -- The class is not being bound yet, so fewer are left for its properties
      have hnew : visiting.contains d.name = false := by grind
      rw [boundProperties_congr halike.properties fun p hp =>
        coercion?_eq_of_rel hlookup hleads (d.name :: visiting) p.type.unwrapped.1
          (hleads type.name d hname hfound p hp)]
termination_by (g.unbound visiting).length
decreasing_by exact length_unbound_lt (mem_types_of_lookup hfound) hnew

/-- Two graphs in which every name stands for the same declaration bind every type the same. -/
theorem boundProperties_eq_of_lookup_eq (hlookup : g.lookup = g'.lookup) (visiting : List String)
    (d : Declaration) : g.boundProperties visiting d = g'.boundProperties visiting d := by
  refine boundProperties_congr rfl fun p _ => ?_
  have hrel : ∀ name, Option.Rel Declaration.BindsAlike (g.lookup name) (g'.lookup name) := by
    intro name
    rw [← hlookup]
    cases g.lookup name with
    | none => exact .none
    | some e => exact .some ⟨rfl, rfl, rfl, rfl, rfl⟩
  have hall : ∀ name d, True → g.lookup name = some d →
      ∀ p ∈ d.settableProperties, (fun _ : String => True) p.type.unwrapped.1.name :=
    fun _ _ _ _ _ _ => trivial
  exact coercion?_eq_of_rel (fun name _ => hrel name) hall visiting _ trivial

end Graph
end Wiring
