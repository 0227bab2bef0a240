/-
  Wiring.Proofs.Configuration.Nesting

  What has to be made for the classes that are bound as sections inside of a binding. It can be told
  from the declarations: it is each class that the properties of a kept type lead to, none of which
  has a kept binding of its own.
-/

import Wiring.Proofs.Configuration.Coverage
import Wiring.Proofs.Construction.Widest

namespace Wiring

open Relation (TransGen)

/-! ## What has to be made -/

/-- An object can be made without arguments: by the implicit constructor, or by a declared one that
    generated code may call. -/
def Declaration.IsMakeable (d : Declaration) : Prop :=
  d.constructors = [] ∨ ∃ c ∈ d.constructors,
    (c.accessibility = .anyone ∨ c.accessibility = .sameModule) ∧ c.parameters = []

/-- Each class inside of a binding can be made, or a binding of its own asks for the constructor
    that it lacks. -/
def Plan.MakesSections (p : Plan) (g : Graph) : Prop :=
  ∀ b ∈ p.bindings, ∀ type ∈ BoundProperty.nestedTypes b.properties,
    (∃ e, g.lookup type = some e ∧ e.IsMakeable) ∨
      ∃ own ∈ p.bindings, own.boundType = type ∧ own.needsConstructor = true

theorem Declaration.hasParameterlessConstructor_iff {d : Declaration} :
    d.hasParameterlessConstructor = true ↔ d.IsMakeable := by
  rw [hasParameterlessConstructor, Bool.or_eq_true, List.isEmpty_iff, List.any_eq_true,
    exists_mem_callableConstructors_iff fun c => c.isParameterless = true]
  simp [IsMakeable, Constructor.isCallable, Accessibility.isWithinModule,
    Constructor.isParameterless]

/-- What is nested can be made, or is open for a constructor to be generated. -/
theorem Declaration.isMakeable_or_isExtensible {d : Declaration} (h : d.isNestable = true) :
    d.IsMakeable ∨ d.isExtensible = true := by
  rw [isNestable, Bool.and_eq_true, Bool.or_eq_true, hasParameterlessConstructor_iff] at h
  exact h.2

namespace Survey

variable {s : Survey} {b : Binding} {type : String}

/-- A kept binding is one of a scanned declaration. -/
theorem exists_declaration_of_mem_plan_bindings (hb : b ∈ s.plan.bindings) :
    ∃ d ∈ s.graph.scannedTypes, b ∈ d.bindings s.graph := by
  obtain ⟨hfound, -⟩ := mem_plan_bindings_iff.mp hb
  obtain ⟨d, hd, -, hbinding⟩ := mem_bindings_iff.mp hfound
  exact ⟨d, hd, hbinding⟩

/-- No class inside of a kept binding has a kept binding of its own. -/
theorem boundType_ne_of_mem_nestedTypes (hb : b ∈ s.plan.bindings)
    (htype : type ∈ BoundProperty.nestedTypes b.properties) {own : Binding}
    (hown : own ∈ s.plan.bindings) : own.boundType ≠ type := by
  rintro rfl
  obtain ⟨d, -, hbinding⟩ := exists_declaration_of_mem_plan_bindings hb
  -- The own binding is kept, so only its own type mentions it
  obtain ⟨hfound, -⟩ := mem_plan_bindings_iff.mp hb
  obtain ⟨-, -, htop⟩ := mem_plan_bindings_iff.mp hown
  have hsame : b.boundType = own.boundType := htop _ ⟨b, hfound, rfl, .inr htype⟩
  -- But no class occurs inside of itself
  obtain ⟨e, hname, hreach⟩ := (mem_nestedTypes_bindings_iff hbinding).mp htype
  obtain ⟨-, -, hother⟩ := Graph.lookup_of_transGen hreach
  obtain ⟨request, -, rfl⟩ := List.mem_map.mp hbinding
  have hself : d.name = own.boundType := hsame
  rw [hname, ← hself] at hother
  exact hother (List.mem_singleton_self _)

end Survey

/-- The classes inside of the kept bindings are declared, can be made or are open for a constructor
    to be generated, and have no kept bindings that ask for it. So everything can be made exactly if
    all classes that a kept type leads to have constructors without arguments. -/
theorem plan_makes_sections_iff (g : Graph) (o : Options) (hvalid : g.validate = .ok ()) :
    ∃ p, g.plan o = .ok p ∧
      (∀ b ∈ p.bindings, ∀ type ∈ BoundProperty.nestedTypes b.properties,
        (∃ e, g.lookup type = some e ∧ (e.IsMakeable ∨ e.isExtensible = true)) ∧
          ∀ own ∈ p.bindings, own.boundType ≠ type) ∧
      (p.MakesSections g ↔
        ∀ d ∈ g.scannedTypes, ∀ b ∈ d.bindings g, b ∈ p.bindings →
          ∀ e, TransGen (g.NestsOutside [d.name]) d e → e.IsMakeable) := by
  let s : Survey := ⟨g, o⟩
  refine ⟨s.plan, Graph.plan_eq_ok hvalid o, ?_, ?_⟩
  · intro b hb type htype
    refine ⟨?_, fun own hown => Survey.boundType_ne_of_mem_nestedTypes hb htype hown⟩
    obtain ⟨d, -, hbinding⟩ := Survey.exists_declaration_of_mem_plan_bindings hb
    obtain ⟨e, rfl, hreach⟩ := (Survey.mem_nestedTypes_bindings_iff hbinding).mp htype
    obtain ⟨hlookup, hnestable, -⟩ := Graph.lookup_of_transGen hreach
    exact ⟨e, hlookup, Declaration.isMakeable_or_isExtensible hnestable⟩
  · refine ⟨?_, ?_⟩
    · intro hmakes d _ b hbinding hb e hreach
      have htype : e.name ∈ BoundProperty.nestedTypes b.properties :=
        (Survey.mem_nestedTypes_bindings_iff (s := s) hbinding).mpr ⟨e, rfl, hreach⟩
      rcases hmakes b hb e.name htype with ⟨e', hlookup, hmakeable⟩ | ⟨own, hown, hsame, -⟩
      · rw [(Graph.lookup_of_transGen hreach).1] at hlookup
        exact Option.some.inj hlookup ▸ hmakeable
      · exact absurd hsame (Survey.boundType_ne_of_mem_nestedTypes hb htype hown)
    · intro hmakeable b hb type htype
      obtain ⟨d, hd, hbinding⟩ := Survey.exists_declaration_of_mem_plan_bindings hb
      obtain ⟨e, rfl, hreach⟩ := (Survey.mem_nestedTypes_bindings_iff hbinding).mp htype
      exact .inl ⟨e, (Graph.lookup_of_transGen hreach).1, hmakeable d hd b hbinding hb e hreach⟩

/-! ## A server and its limits -/

/-- A class that is bound to a section and holds limits. -/
def Declaration.server : Declaration :=
  ((ofClass "App" "App.Server").withProperty
    { name := "Limits", type := .ofClass "App.Limits" }).withMarker (.configurationSection {})

/-- A build with a server and the given declaration of its limits. -/
def Graph.serverWith (limits : Declaration) : Graph where
  current := "App"
  modules := [{ name := "App", types := [.server, limits] }]

/-- Limits without declared constructors. -/
def Declaration.plainLimits : Declaration := ofClass "App" "App.Limits"

/-- Limits that are made from a size, and open for generated members. -/
def Declaration.sizedLimits : Declaration :=
  { (ofClass "App" "App.Limits").withConstructor
      { parameters := [{ name := "size", type := .ofPrimitive "int" }] } with
    isExtensible := true }

/-- With plain limits, all that the server needs can be made. -/
theorem server_makes_sections :
    (Graph.serverWith .plainLimits).validate = .ok () ∧
      ∃ p, (Graph.serverWith .plainLimits).plan {} = .ok p ∧
        p.MakesSections (.serverWith .plainLimits) := by
  have hvalid : (Graph.serverWith .plainLimits).validate = .ok () := by decide
  obtain ⟨p, hp, -, hiff⟩ := plan_makes_sections_iff _ {} hvalid
  refine ⟨hvalid, p, hp, hiff.mpr ?_⟩
  intro d _ b _ _ e hreach
  -- Neither class declares a constructor
  have hmem : e ∈ [Declaration.server, .plainLimits] :=
    Graph.mem_types_of_lookup (Graph.lookup_of_transGen hreach).1
  rcases List.mem_pair.mp hmem with rfl | rfl
  · exact .inl rfl
  · exact .inl rfl

/-- If the limits need a size, they have to be made without one, and no binding asks for a
    constructor. -/
theorem server_has_unmakeable_limits :
    (Graph.serverWith .sizedLimits).validate = .ok () ∧
      ∃ p, (Graph.serverWith .sizedLimits).plan {} = .ok p ∧
        ∃ b ∈ p.bindings, "App.Limits" ∈ BoundProperty.nestedTypes b.properties ∧
          (∀ e, (Graph.serverWith .sizedLimits).lookup "App.Limits" = some e → ¬ e.IsMakeable) ∧
          ∀ own ∈ p.bindings, own.boundType ≠ "App.Limits" := by
  have hvalid : (Graph.serverWith .sizedLimits).validate = .ok () := by decide
  let s : Survey := ⟨.serverWith .sizedLimits, {}⟩
  let b : Binding := Declaration.server.binding s.graph {}
  have hscanned : s.graph.scannedTypes = [.server, .sizedLimits] := rfl
  have hbinding : b ∈ Declaration.server.bindings s.graph := .head _
  -- The server is the only type that is bound to a section
  have hfound : ∀ other, other ∈ s.allFindings.bindings ↔ other = b := by
    intro other
    rw [Survey.mem_bindings_iff, hscanned]
    refine ⟨?_, ?_⟩
    · rintro ⟨d, hd, -, hother⟩
      rcases List.mem_pair.mp hd with rfl | rfl
      · exact List.mem_singleton.mp hother
      · cases hother
    · rintro rfl
      exact ⟨.server, .head _, by decide, hbinding⟩
  have hb : b ∈ s.plan.bindings := by
    refine Survey.mem_plan_bindings_iff.mpr ⟨(hfound b).mpr rfl, ⟨b, (hfound b).mpr rfl, rfl⟩, ?_⟩
    rintro source ⟨other, hother, rfl, -⟩
    rw [(hfound other).mp hother]
  have hlookup : s.graph.lookup "App.Limits" = some .sizedLimits := by decide
  have hnests : s.graph.NestsOutside ["App.Server"] .server .sizedLimits :=
    ⟨⟨{ name := "Limits", type := .ofClass "App.Limits" }, by decide, by decide, by decide,
      by decide, hlookup, by decide⟩, by decide⟩
  have hlimits : "App.Limits" ∈ BoundProperty.nestedTypes b.properties :=
    (Survey.mem_nestedTypes_bindings_iff hbinding).mpr ⟨.sizedLimits, rfl, .single hnests⟩
  refine ⟨hvalid, s.plan, Graph.plan_eq_ok hvalid {}, b, hb, hlimits, ?_,
    fun own hown => Survey.boundType_ne_of_mem_nestedTypes hb hlimits hown⟩
  intro e he
  have hsized : s.graph.lookup "App.Limits" = some e := he
  rw [hlookup] at hsized
  rw [← Option.some.inj hsized, ← Declaration.hasParameterlessConstructor_iff]
  decide

end Wiring
