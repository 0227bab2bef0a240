/-
  Wiring.Proofs.Configuration.Coverage

  What is left of a type whose binding is removed. A binding is removed where another one mentions
  its type, be that one kept or removed itself. Going back from mention to mention either ends at a
  type that no other mentions, whose bindings are kept, or runs into a circle; so every type is
  still covered if the types in circles are.
-/

import Wiring.Proofs.Configuration.NestedTypes
import Wiring.Proofs.Survey.Findings
import Mathlib.Data.Fintype.EquivFin
import Mathlib.Data.Fintype.Sets

namespace Wiring

open Relation (ReflTransGen TransGen)

namespace Binding

variable {bindings : List Binding} {b : Binding} {source type : String}

/-! ## Mentions -/

/-- A binding of the one type lists the other among the types of its properties, or binds it as a
    section inside of them. -/
def Mentions (bindings : List Binding) (source type : String) : Prop :=
  ∃ b ∈ bindings, b.boundType = source ∧
    (type ∈ b.propertyTypes ∨ type ∈ BoundProperty.nestedTypes b.properties)

/-- The other type can be reached from the one, from mention to mention. -/
def Leads (bindings : List Binding) : String → String → Prop := ReflTransGen (Mentions bindings)

/-- A bound type that is mentioned by no type but itself. -/
def IsTop (bindings : List Binding) (type : String) : Prop :=
  (∃ b ∈ bindings, b.boundType = type) ∧ ∀ source, Mentions bindings source type → source = type

/-- A type that leads to another one and back. -/
def IsCircular (bindings : List Binding) (type : String) : Prop :=
  ∃ other, other ≠ type ∧ Leads bindings type other ∧ Leads bindings other type

/-- The bindings that are kept are those of the top types. -/
theorem mem_removeNested_iff :
    b ∈ removeNested bindings ↔ b ∈ bindings ∧ IsTop bindings b.boundType := by
  simp only [removeNested, List.mem_filter, Bool.not_eq_true', List.any_eq_false, covered,
    List.contains_iff_mem, List.mem_append, bne_iff_ne, IsTop, Mentions]
  refine ⟨?_, ?_⟩
  · rintro ⟨hb, hnone⟩
    refine ⟨hb, ⟨b, hb, rfl⟩, ?_⟩
    rintro source ⟨other, hother, rfl, hmention⟩
    by_contra hne
    exact hnone other hother ⟨hmention, Ne.symm hne⟩
  · rintro ⟨hb, -, htop⟩
    refine ⟨hb, fun other hother ⟨hmention, hne⟩ => hne ?_⟩
    exact (htop other.boundType ⟨other, hother, rfl, hmention⟩).symm

/-! ## Going back to a top type -/

/-- The one bound type leads to the other, but not the other way round. -/
def Precedes (bindings : List Binding) (a c : {t // t ∈ bindings.map boundType}) : Prop :=
  Leads bindings a c ∧ ¬ Leads bindings c a

/-- Going back strictly comes to an end. -/
theorem wellFounded_precedes (bindings : List Binding) : WellFounded (Precedes bindings) := by
  have htrans : IsTrans _ (Precedes bindings) := ⟨fun a c e hac hce =>
    ⟨hac.1.trans hce.1, fun hea => hac.2 (hce.1.trans hea)⟩⟩
  have hirrefl : Std.Irrefl (Precedes bindings) := ⟨fun a haa => haa.2 haa.1⟩
  exact Finite.wellFounded_of_trans_of_irrefl _

/-- If a top type leads to every type in a circle, then one leads to every bound type. -/
theorem exists_top_leads
    (hcircular : ∀ b ∈ bindings, IsCircular bindings b.boundType →
      ∃ top, IsTop bindings top ∧ Leads bindings top b.boundType)
    (a : {t // t ∈ bindings.map boundType}) :
    ∃ top, IsTop bindings top ∧ Leads bindings top a := by
  induction a using (wellFounded_precedes bindings).induction with
  | _ a ih =>
      obtain ⟨b, hb, htype⟩ := List.mem_map.mp a.2
      by_cases htop : IsTop bindings a
      · exact ⟨a, htop, .refl⟩
      -- Another type mentions this one
      have hmentioned : ∃ source, Mentions bindings source a ∧ source ≠ a := by
        by_contra hnone
        push Not at hnone
        exact htop ⟨⟨b, hb, htype⟩, hnone⟩
      obtain ⟨source, hmention, hne⟩ := hmentioned
      by_cases hback : Leads bindings a source
      · -- The two types lie in a circle
        rw [← htype] at hback hne hmention ⊢
        exact hcircular b hb ⟨source, hne, hback, .single hmention⟩
      · -- Go on from the other type, which lies strictly before
        obtain ⟨other, hother, hsource, -⟩ := id hmention
        have hbound : source ∈ bindings.map boundType := List.mem_map.mpr ⟨other, hother, hsource⟩
        obtain ⟨top, htop, hleads⟩ := ih ⟨source, hbound⟩ ⟨.single hmention, hback⟩
        exact ⟨top, htop, hleads.tail hmention⟩

end Binding

/-! ## The bindings of a plan -/

namespace Survey

variable {s : Survey} {b : Binding} {source type : String}

/-- A binding is found for each section that a planned configuration type asks for. -/
theorem mem_bindings_iff :
    b ∈ s.allFindings.bindings ↔
      ∃ d ∈ s.graph.scannedTypes, s.plays d .configuration = true ∧ b ∈ d.bindings s.graph := by
  rw [bindings_allFindings, List.mem_flatMap]
  simp only [mem_plannedTypes, List.mem_ite_nil_right]

/-- The classes inside of a binding are those that the properties of its type lead to. -/
theorem mem_nestedTypes_bindings_iff {d : Declaration} (hb : b ∈ d.bindings s.graph) :
    type ∈ BoundProperty.nestedTypes b.properties ↔
      ∃ e, e.name = type ∧ TransGen (s.graph.NestsOutside [d.name]) d e := by
  obtain ⟨request, -, rfl⟩ := List.mem_map.mp hb
  exact s.graph.mem_nestedTypes_iff [d.name] d type

/-- A type that is mentioned is the type of a property. -/
theorem exists_property_of_mentions (h : Binding.Mentions s.allFindings.bindings source type) :
    ∃ d ∈ s.graph.types, ∃ p ∈ d.settableProperties, p.type.unwrapped.1.name = type := by
  obtain ⟨b, hb, -, hmention⟩ := h
  obtain ⟨d, hscanned, -, hbinding⟩ := mem_bindings_iff.mp hb
  have hd : d ∈ s.graph.types := s.graph.scannedTypes_sublist.mem hscanned
  rcases hmention with hown | hnested
  · -- A property of the bound type itself
    obtain ⟨request, -, rfl⟩ := List.mem_map.mp hbinding
    obtain ⟨hsettable, -⟩ := List.mem_filter.mp (List.mem_sortDistinct.mp hown)
    obtain ⟨p, hp, rfl⟩ := List.mem_map.mp hsettable
    exact ⟨d, hd, p, hp, rfl⟩
  · -- A property of a class inside of the binding
    obtain ⟨e, rfl, hreach⟩ := (mem_nestedTypes_bindings_iff hbinding).mp hnested
    exact Graph.exists_property_of_transGen hd hreach

/-- A bound type that no property is of is a top type. -/
theorem isTop_of_no_property (hbound : ∃ b ∈ s.allFindings.bindings, b.boundType = type)
    (hnone : ∀ d ∈ s.graph.types, ∀ p ∈ d.settableProperties, p.type.unwrapped.1.name ≠ type) :
    Binding.IsTop s.allFindings.bindings type := by
  refine ⟨hbound, fun source hmention => ?_⟩
  obtain ⟨d, hd, p, hp, hname⟩ := exists_property_of_mentions hmention
  exact absurd hname (hnone d hd p hp)

theorem mem_plan_bindings_iff :
    b ∈ s.plan.bindings ↔
      b ∈ s.allFindings.bindings ∧ Binding.IsTop s.allFindings.bindings b.boundType := by
  rw [← Binding.mem_removeNested_iff]
  exact List.mem_sortBy

/-- A kept binding leads to a type exactly if a top type does. -/
theorem exists_plan_binding_leads_iff :
    (∃ kept ∈ s.plan.bindings, Binding.Leads s.allFindings.bindings kept.boundType type) ↔
      ∃ top, Binding.IsTop s.allFindings.bindings top ∧
        Binding.Leads s.allFindings.bindings top type := by
  simp only [mem_plan_bindings_iff]
  refine ⟨?_, ?_⟩
  · rintro ⟨kept, ⟨-, htop⟩, hleads⟩
    exact ⟨_, htop, hleads⟩
  · rintro ⟨top, htop, hleads⟩
    obtain ⟨kept, hkept, rfl⟩ := htop.1
    exact ⟨kept, ⟨hkept, htop⟩, hleads⟩

end Survey

/-- What a plan drops is covered by what it keeps, unless there are types in a circle that no type
    outside of all circles leads to. -/
theorem plan_covers_dropped_iff (g : Graph) (o : Options) (hvalid : g.validate = .ok ()) :
    ∃ p bindings, g.plan o = .ok p ∧ bindings = (Survey.mk g o).allFindings.bindings ∧
      ((∀ b ∈ bindings, b ∉ p.bindings →
          ∃ kept ∈ p.bindings, Binding.Leads bindings kept.boundType b.boundType) ↔
        ∀ b ∈ bindings, Binding.IsCircular bindings b.boundType →
          ∃ top, Binding.IsTop bindings top ∧ Binding.Leads bindings top b.boundType) := by
  refine ⟨_, _, Graph.plan_eq_ok hvalid o, rfl, ?_⟩
  simp only [Survey.exists_plan_binding_leads_iff]
  refine ⟨?_, ?_⟩
  · -- What is kept leads to itself
    intro hcovers b hb _
    by_cases hkept : b ∈ (Survey.mk g o).plan.bindings
    · exact ⟨_, (Survey.mem_plan_bindings_iff.mp hkept).2, .refl⟩
    · exact hcovers b hb hkept
  · intro hcircular b hb _
    exact Binding.exists_top_leads hcircular ⟨b.boundType, List.mem_map_of_mem hb⟩

/-- A class that is bound to a section and holds another one. -/
def Declaration.twin (name other : String) : Declaration :=
  ((ofClass "App" name).withProperty { name := "Other", type := .ofClass other }).withMarker
    (.configurationSection {})

/-- A build with two classes that are bound to sections and hold each other. -/
def Graph.twins : Graph where
  current := "App"
  modules := [{
    name := "App"
    types := [.twin "App.Left" "App.Right", .twin "App.Right" "App.Left"] }]

/-- A build with two classes that hold each other and a third one that holds the first of them, all
    bound to sections. -/
def Graph.heldTwins : Graph where
  current := "App"
  modules := [{
    name := "App"
    types := [
      .twin "App.Root" "App.Left", .twin "App.Left" "App.Right", .twin "App.Right" "App.Left"] }]

/-- A class that holds another one mentions it. -/
theorem Graph.mentions_twin {g : Graph} {name other : String} (hne : other ≠ name)
    (hmem : .twin name other ∈ g.scannedTypes)
    (hplays : (Survey.mk g {}).plays (.twin name other) .configuration = true) :
    Binding.Mentions (Survey.mk g {}).allFindings.bindings name other := by
  refine ⟨(Declaration.twin name other).binding g {}, ?_, rfl, .inl ?_⟩
  · exact Survey.mem_bindings_iff.mpr ⟨_, hmem, hplays, .head _⟩
  · simp [Declaration.binding, Declaration.settableTypes, Declaration.settableProperties,
      Declaration.twin, Declaration.withProperty, Declaration.withMarker, Declaration.ofClass,
      Property.isSettable, TypeRef.unwrapped, TypeRef.ofClass, hne]

/-- Of two classes that hold each other, the first of them held by a third class, the plan drops
    both bindings, and the binding of the third class, which it keeps, leads to them. -/
theorem heldTwins_covers_dropped :
    Graph.heldTwins.validate = .ok () ∧ ∃ p bindings, Graph.heldTwins.plan {} = .ok p ∧
      bindings = (Survey.mk Graph.heldTwins {}).allFindings.bindings ∧
      bindings.map (·.boundType) = ["App.Root", "App.Left", "App.Right"] ∧
      (∀ b ∈ bindings, b ∈ p.bindings ↔ b.boundType = "App.Root") ∧
      ∀ b ∈ bindings, b ∉ p.bindings →
        ∃ kept ∈ p.bindings, Binding.Leads bindings kept.boundType b.boundType := by
  have hvalid : Graph.heldTwins.validate = .ok () := by decide
  obtain ⟨p, bindings, hp, rfl, hiff⟩ := plan_covers_dropped_iff Graph.heldTwins {} hvalid
  let bindings := (Survey.mk Graph.heldTwins {}).allFindings.bindings
  have htypes : bindings.map (·.boundType) = ["App.Root", "App.Left", "App.Right"] := by
    decide +kernel
  have hbound : ∀ b ∈ bindings,
      b.boundType = "App.Root" ∨ b.boundType = "App.Left" ∨ b.boundType = "App.Right" := by
    intro b hb
    have hmem : b.boundType ∈ bindings.map (·.boundType) := List.mem_map_of_mem hb
    simpa [htypes] using hmem
  -- The first class holds one of the two, and these hold each other
  have hroot : Binding.Mentions bindings "App.Root" "App.Left" :=
    Graph.mentions_twin (by decide) (by decide) (by decide)
  have hleft : Binding.Mentions bindings "App.Left" "App.Right" :=
    Graph.mentions_twin (by decide) (by decide) (by decide)
  have hright : Binding.Mentions bindings "App.Right" "App.Left" :=
    Graph.mentions_twin (by decide) (by decide) (by decide)
  have htop : Binding.IsTop bindings "App.Root" := by
    refine Survey.isTop_of_no_property (List.mem_map.mp ?_) (by decide)
    exact htypes ▸ List.mem_cons_self ..
  have hkept : ∀ b ∈ bindings, b ∈ p.bindings ↔ b.boundType = "App.Root" := by
    intro b hb
    rw [Graph.eq_plan_of_plan_eq_ok hvalid hp, Survey.mem_plan_bindings_iff]
    refine ⟨?_, fun hname => ⟨hb, hname ▸ htop⟩⟩
    rintro ⟨-, -, hself⟩
    rcases hbound b hb with hname | hname | hname
    · exact hname
    · rw [hname] at hself
      exact absurd (hself _ hright) (by decide)
    · rw [hname] at hself
      exact absurd (hself _ hleft) (by decide)
  refine ⟨hvalid, p, bindings, hp, rfl, htypes, hkept, hiff.mpr fun b hb _ => ⟨_, htop, ?_⟩⟩
  rcases hbound b hb with hname | hname | hname
  · exact hname ▸ .refl
  · exact hname ▸ .single hroot
  · exact hname ▸ .tail (.single hroot) hleft

/-- Of two classes that hold each other the plan drops both bindings and keeps nothing that leads to
    them. -/
theorem twins_not_covered :
    Graph.twins.validate = .ok () ∧ ∃ p bindings, Graph.twins.plan {} = .ok p ∧
      bindings = (Survey.mk Graph.twins {}).allFindings.bindings ∧
      ∃ b ∈ bindings, b ∉ p.bindings ∧
        ∀ kept ∈ p.bindings, ¬ Binding.Leads bindings kept.boundType b.boundType := by
  have hvalid : Graph.twins.validate = .ok () := by decide
  -- Each type is mentioned by the other, so neither is a top type
  let bindings := (Survey.mk Graph.twins {}).allFindings.bindings
  have hleft : Binding.Mentions bindings "App.Left" "App.Right" :=
    Graph.mentions_twin (by decide) (by decide) (by decide)
  have hright : Binding.Mentions bindings "App.Right" "App.Left" :=
    Graph.mentions_twin (by decide) (by decide) (by decide)
  have hnone : ∀ b, b ∉ (Survey.mk Graph.twins {}).plan.bindings := by
    intro b hb
    obtain ⟨hfound, -, htop⟩ := Survey.mem_plan_bindings_iff.mp hb
    obtain ⟨d, hd, -, hbinding⟩ := Survey.mem_bindings_iff.mp hfound
    obtain ⟨request, -, rfl⟩ := List.mem_map.mp hbinding
    have hscanned : Graph.twins.scannedTypes =
        [.twin "App.Left" "App.Right", .twin "App.Right" "App.Left"] := by decide
    rw [hscanned, List.mem_pair] at hd
    rcases hd with rfl | rfl
    · have hsame : "App.Right" = "App.Left" := htop _ hright
      exact absurd hsame (by decide)
    · have hsame : "App.Left" = "App.Right" := htop _ hleft
      exact absurd hsame (by decide)
  obtain ⟨b, hb, -⟩ := hleft
  exact ⟨hvalid, _, _, Graph.plan_eq_ok hvalid {}, rfl, b, hb, hnone b,
    fun kept hkept => absurd hkept (hnone kept)⟩

end Wiring
