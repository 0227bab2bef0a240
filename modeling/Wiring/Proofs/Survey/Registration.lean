/-
  Wiring.Proofs.Survey.Registration

  Which types a build registers as services, and under what. `Graph.Registrable` reads the rule off
  the declarations alone: no role is assigned, no constructor is chosen and nothing is sorted. The
  main statement is that the services of a plan are exactly the registrable types, each once, with
  the lifetime and the interfaces that the declaration itself gives.
-/

import Wiring.Proofs.Construction.Widest
import Wiring.Proofs.Listing.Distinct
import Wiring.Proofs.Survey.Findings
import Mathlib.Data.List.Perm.Basic

namespace Wiring

/-! ## The rule, read off the declarations -/

/-- The container supplies closed classes and interfaces, but not the type that asks. -/
def Parameter.IsSuppliedTo (p : Parameter) (typeName : String) : Prop :=
  (p.type.kind = .classType ∨ p.type.kind = .interface) ∧ p.type.isOpen = false ∧
    p.type.name ≠ typeName

namespace Graph

/-- An interface whose implementations are plugins: one declared as a contract in any module, or
    one that the options name. -/
def IsPluginContract (g : Graph) (o : Options) (name : String) : Prop :=
  (∃ c ∈ g.types, c.kind = .interface ∧ .pluginContract ∈ c.markers ∧ c.name = name) ∨
    name ∈ o.pluginInterfaces

/-- A type that the container constructs and generated code can name. -/
structure Registrable (g : Graph) (o : Options) (d : Declaration) : Prop where
  scanned : ∃ m ∈ g.modules, (m.name = g.current ∨ m.participates = true) ∧ d ∈ m.types
  covered : o.coversName d.name = true
  reachable : (∀ a ∈ d.accessChain, a = .anyone) ∨
    d.moduleName = g.current ∧ ∀ a ∈ d.accessChain, a = .anyone ∨ a = .sameModule
  instantiable : (d.kind = .classType ∨ d.kind = .record) ∧ d.isAbstract = false ∧
    d.isStatic = false
  plain : d.typeParameters = []
  not_exempt : .exemptFromRegistration ∉ d.markers ∧ .exemptFromInjection ∉ d.markers
  not_decorator : ∀ target place,
    .decoratorFor target place ∉ d.markers ∧ .openDecoratorFor target place ∉ d.markers
  not_factory : .factorySource ∉ d.markers
  not_configuration : ∀ request, .configurationSection request ∉ d.markers
  not_plugin : ∀ i ∈ d.interfaces, ¬ g.IsPluginContract o i.name
  constructible : d.constructors = [] ∨ ∃ c ∈ d.constructors,
    (c.accessibility = .anyone ∨ c.accessibility = .sameModule) ∧
      ∀ p ∈ c.parameters, p.IsSuppliedTo d.name

end Graph

namespace Declaration

/-- The lifetime that the last lifetime marker gives, a singleton where there is none. -/
def AsksFor (d : Declaration) (lifetime : Lifetime) : Prop :=
  (∃ before after, d.markers = before ++ .lifetime lifetime :: after ∧
    ∀ other, .lifetime other ∉ after) ∨
  lifetime = .singleton ∧ ∀ other, .lifetime other ∉ d.markers

/-- The texts of the closed interfaces that are not ignored, each once, as declared. -/
def interfaceTexts (d : Declaration) (o : Options) : List String :=
  ((d.interfaces.filter fun i => !i.isOpen && !o.ignoredInterfaces.contains i.name).map
    TypeRef.text).eraseDups

end Declaration

/-- The services of a plan are the registrable types, in the order of `types` and each once. -/
structure Plan.RegistersExactly (p : Plan) (g : Graph) (o : Options) (types : List Declaration) :
    Prop where
  nodup : types.Nodup
  mem_iff : ∀ d, d ∈ types ↔ g.Registrable o d
  entries : List.Forall₂ (fun d s => s.placement = d.placement ∧ s.lifetime = d.lifetime)
    types p.services
  nodup_entries : (p.services.map Service.placement).Nodup
  lifetimes : ∀ d ∈ types, d.AsksFor d.lifetime
  triples : p.interfaceTriples =
    types.flatMap fun d => (d.interfaceTexts o).map fun text => (d.name, text, d.lifetime)

/-! ## Markers -/

theorem Marker.lifetime?_eq_some_iff {m : Marker} {l : Lifetime} :
    m.lifetime? = some l ↔ m = .lifetime l := by
  cases m <;> simp [lifetime?]

namespace Declaration

theorem any_excludesService_eq_false_iff {d : Declaration} :
    d.markers.any Marker.excludesService = false ↔
      (.exemptFromRegistration ∉ d.markers ∧ .exemptFromInjection ∉ d.markers) ∧
      (∀ target place,
        .decoratorFor target place ∉ d.markers ∧ .openDecoratorFor target place ∉ d.markers) ∧
      .factorySource ∉ d.markers ∧ ∀ request, .configurationSection request ∉ d.markers := by
  rw [List.any_eq_false]
  refine ⟨?_, ?_⟩
  · intro h
    have hnot : ∀ m : Marker, m.excludesService = true → m ∉ d.markers :=
      fun m hm hmem => h m hmem hm
    exact ⟨⟨hnot _ rfl, hnot _ rfl⟩, fun _ _ => ⟨hnot _ rfl, hnot _ rfl⟩, hnot _ rfl,
      fun _ => hnot _ rfl⟩
  · rintro ⟨⟨hreg, hinj⟩, hdec, hfac, hconf⟩ m hmem
    cases m with
    | exemptFromRegistration => exact absurd hmem hreg
    | exemptFromInjection => exact absurd hmem hinj
    | decoratorFor target place => exact absurd hmem (hdec target place).1
    | openDecoratorFor target place => exact absurd hmem (hdec target place).2
    | factorySource => exact absurd hmem hfac
    | configurationSection request => exact absurd hmem (hconf request)
    | lifetime _ | keyed _ | intercept _ _ | pluginContract | order _ =>
        exact Bool.false_ne_true

/-- The lifetime of a declaration is the one that it asks for. -/
theorem asksFor_lifetime (d : Declaration) : d.AsksFor d.lifetime := by
  unfold AsksFor lifetime
  rw [List.getLast?_filterMap]
  -- The last lifetime marker is the first from behind
  cases hfind : d.markers.reverse.findSome? Marker.lifetime? with
  | none =>
      refine .inr ⟨rfl, fun other hmem => ?_⟩
      rw [List.findSome?_eq_none_iff] at hfind
      exact nomatch hfind _ (List.mem_reverse.mpr hmem)
  | some l =>
      obtain ⟨after, m, before, hsplit, hm, hnone⟩ := List.findSome?_eq_some_iff.mp hfind
      obtain rfl := Marker.lifetime?_eq_some_iff.mp hm
      refine .inl ⟨before.reverse, after.reverse, ?_, fun other hmem => ?_⟩
      · rw [← List.reverse_reverse d.markers, hsplit]
        simp
      · exact nomatch hnone _ (List.mem_reverse.mp hmem)

/-! ## Constructors -/

theorem canInject_iff {d : Declaration} {p : Parameter} :
    d.canInject p = true ↔ p.IsSuppliedTo d.name := by
  simp [canInject, Parameter.IsSuppliedTo, TypeRef.isResolvable, TypeRef.isReferenceType,
    and_assoc]

theorem isWithinModule_iff {a : Accessibility} :
    a.isWithinModule = true ↔ a = .anyone ∨ a = .sameModule := by
  simp [Accessibility.isWithinModule]

/-- A type can be constructed if it declares no constructor, or a callable one of which every
    parameter is supplied. -/
theorem isSome_construction?_iff {d : Declaration} :
    d.construction?.isSome = true ↔
      d.constructors = [] ∨ ∃ c ∈ d.constructors,
        (c.accessibility = .anyone ∨ c.accessibility = .sameModule) ∧
          ∀ p ∈ c.parameters, p.IsSuppliedTo d.name := by
  simp only [construction?, Option.isSome_map, isSome_widest_iff, List.mem_filter]
  rw [exists_mem_effectiveConstructors_iff fun c => d.isInjectable c = true]
  simp [isInjectable, canInject_iff, Constructor.isCallable, isWithinModule_iff]

end Declaration

/-! ## Eligibility -/

namespace Survey

variable {s : Survey} {d : Declaration}

theorem isPluginInterface_iff {ref : TypeRef} :
    s.isPluginInterface ref = true ↔ s.graph.IsPluginContract s.options ref.name := by
  simp [isPluginInterface, Graph.IsPluginContract, Graph.pluginContracts, and_assoc]

theorem isPluginShaped_eq_false_iff :
    s.isPluginShaped d = false ↔
      ∀ i ∈ d.interfaces, ¬ s.graph.IsPluginContract s.options i.name := by
  simp only [isPluginShaped, List.any_eq_false, isPluginInterface_iff]

theorem reaches_iff :
    s.reaches d = true ↔
      (∀ a ∈ d.accessChain, a = .anyone) ∨
        d.moduleName = s.graph.current ∧
          ∀ a ∈ d.accessChain, a = .anyone ∨ a = .sameModule := by
  simp only [reaches, Graph.isCurrent, Declaration.isWithinModule, Declaration.isPublic,
    beq_iff_eq, eq_comm (a := s.graph.current)]
  split
  · -- In the current module internal is enough, and public is internal
    rename_i hcurrent
    simp only [List.all_eq_true, Declaration.isWithinModule_iff, hcurrent, true_and]
    exact ⟨.inr, fun h => h.elim (fun hall a ha => .inl (hall a ha)) id⟩
  · rename_i hother
    simp [hother]

/-- The role of a service is played by the registrable types among those scanned. -/
theorem plays_service_iff (hd : d ∈ s.graph.scannedTypes) :
    s.plays d .service = true ↔ s.graph.Registrable s.options d := by
  rw [Graph.mem_scannedTypes] at hd
  simp only [plays, fits, admits, covers, isInjectableCandidate, Declaration.isConcreteClass,
    Bool.and_eq_true, Bool.or_eq_true, Bool.not_eq_true', beq_iff_eq, List.isEmpty_iff,
    reaches_iff, isPluginShaped_eq_false_iff, Declaration.any_excludesService_eq_false_iff,
    Declaration.isSome_construction?_iff]
  refine ⟨?_, ?_⟩
  · rintro ⟨⟨hcov, hreach⟩, ⟨⟨⟨⟨⟨hkind, habs⟩, hstat⟩, hplain⟩, hex, hdec, hfac, hconf⟩,
      hplugin⟩, hcons⟩
    exact ⟨hd, hcov, hreach, ⟨hkind, habs, hstat⟩, hplain, hex, hdec, hfac, hconf, hplugin, hcons⟩
  · rintro ⟨-, hcov, hreach, ⟨hkind, habs, hstat⟩, hplain, hex, hdec, hfac, hconf, hplugin, hcons⟩
    exact ⟨⟨hcov, hreach⟩, ⟨⟨⟨⟨⟨hkind, habs⟩, hstat⟩, hplain⟩, hex, hdec, hfac, hconf⟩,
      hplugin⟩, hcons⟩

/-! ## The services of a plan -/

/-- The texts of the exposed interfaces of a service are read off its declaration: nothing that is
    registered as a service has a plugin interface. -/
theorem exposedInterfaces_texts (hplays : s.plays d .service = true) :
    (s.exposedInterfaces d).map TypeRef.text = d.interfaceTexts s.options := by
  have hplain : s.isPluginShaped d = false := by
    simp only [plays, fits, isInjectableCandidate, Bool.and_eq_true, Bool.not_eq_true'] at hplays
    exact hplays.2.1.2
  have hfilter : (d.interfaces.filter fun i =>
        !i.isOpen && !s.isPluginInterface i && !s.isIgnored i) =
      d.interfaces.filter fun i => !i.isOpen && !s.options.ignoredInterfaces.contains i.name := by
    apply List.filter_congr
    intro i hi
    have hnot : s.isPluginInterface i = false := by
      simpa using List.any_eq_false.mp hplain i hi
    rw [hnot, isIgnored, Bool.not_false, Bool.and_true]
  rw [exposedInterfaces, List.map_distinctOn, hfilter]
  rfl

/-- The container can construct what plays the role of a service. -/
theorem isSome_construction?_of_plays (hplays : s.plays d .service = true) :
    d.construction?.isSome := by
  simp only [plays, fits, isInjectableCandidate, Bool.and_eq_true] at hplays
  exact hplays.2.2

/-- The services of a plan belong one by one to the scanned declarations that play the role. -/
theorem exists_types_of_services (s : Survey) :
    ∃ types : List Declaration,
      types.Perm (s.graph.scannedTypes.filter (s.plays · .service)) ∧
        List.Forall₂ (fun d service => s.plays d .service = true ∧ s.service? d = some service)
          types s.plan.services := by
  have hsome : ∀ d, s.plays d .service = true → (s.service? d).isSome := by
    intro d hplays
    rw [service?, Option.isSome_map]
    exact isSome_construction?_of_plays hplays
  -- In the order of the findings
  have hfound := List.forall₂_filter_flatMap (s.plays · .service) s.service? s.plannedTypes hsome
  rw [← services_allFindings] at hfound
  -- In the order of the plan
  obtain ⟨types, htypes, hperm⟩ :=
    List.perm_comp_forall₂ (List.sortBy_perm _ s.allFindings.services) hfound.flip
  exact ⟨types, hperm.trans (s.plannedTypes_perm.filter _), htypes.flip⟩

end Survey

/-- The plan of a graph that passes the check registers exactly the registrable types. -/
theorem plan_registers_exactly (g : Graph) (o : Options) (hvalid : g.validate = .ok ()) :
    ∃ p types, g.plan o = .ok p ∧ p.RegistersExactly g o types := by
  have hwf := Graph.validate_eq_ok_iff.mp hvalid
  let s : Survey := ⟨g, o⟩
  obtain ⟨types, hperm, hentries⟩ := s.exists_types_of_services
  have hnodup : (types.map Declaration.placement).Nodup :=
    (hperm.map _).nodup_iff.mpr (hwf.nodup_scanned.sublist (List.filter_sublist.map _))
  have hfields : List.Forall₂ (fun d service => service.placement = d.placement ∧
      service.lifetime = d.lifetime) types s.plan.services := by
    refine hentries.imp fun d service h => ?_
    obtain ⟨c, -, rfl⟩ := Option.map_eq_some_iff.mp h.2
    exact ⟨rfl, rfl⟩
  have hplacements : types.map Declaration.placement = s.plan.services.map Service.placement :=
    hfields.map_eq_map fun d service h => h.1.symm
  refine ⟨s.plan, types, Graph.plan_eq_ok hvalid o, hnodup.of_map _, ?_, hfields,
    hplacements ▸ hnodup, fun d _ => d.asksFor_lifetime, ?_⟩
  · -- Playing the role is being registrable
    intro d
    rw [hperm.mem_iff, List.mem_filter]
    refine ⟨?_, ?_⟩
    · rintro ⟨hmem, hplays⟩
      exact (Survey.plays_service_iff hmem).mp hplays
    · intro h
      have hmem : d ∈ s.graph.scannedTypes := Graph.mem_scannedTypes.mpr h.scanned
      exact ⟨hmem, (Survey.plays_service_iff hmem).mpr h⟩
  · -- A service lists the texts of the interfaces that it exposes
    unfold Plan.interfaceTriples
    rw [List.flatMap_def, List.flatMap_def]
    congr 1
    refine (hentries.map_eq_map fun d service h => ?_).symm
    obtain ⟨c, -, rfl⟩ := Option.map_eq_some_iff.mp h.2
    rw [← Survey.exposedInterfaces_texts h.1, List.map_map]
    rfl

/-- A class that nothing outside of its own enclosing class can name. -/
def Declaration.outbox : Declaration := (ofClass "App" "App.Outbox").nestedIn .owner

/-- A build with a scoped service behind an interface, and a class out of reach. -/
def Graph.mailShop : Graph where
  current := "App"
  modules := [{
    name := "App"
    types := [
      ((Declaration.ofClass "App" "App.Mailer").implementing
        (.ofInterface "App.IMailer")).withMarker (.lifetime .scoped),
      .outbox] }]

theorem mailShop_registers_exactly :
    Graph.mailShop.validate = .ok () ∧
      ∃ p types, Graph.mailShop.plan {} = .ok p ∧ p.RegistersExactly Graph.mailShop {} types :=
  ⟨by decide, plan_registers_exactly Graph.mailShop {} (by decide)⟩

end Wiring
