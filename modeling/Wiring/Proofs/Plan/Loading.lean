/-
  Wiring.Proofs.Plan.Loading

  What a plan registers is there when the program runs. Entries take their module from the
  declaration, while the modules that are loaded at the start are read off the graph; a well-formed
  graph lists every declaration under its module, so the two agree. And what a chain is said to wrap
  is registered: the names are those of the services that expose its target.
-/

import Wiring.Proofs.Configuration.Nesting
import Wiring.Proofs.Diagnostic.Order
import Wiring.Proofs.Plan.Proxies

namespace Wiring

namespace Plan

/-- The module is the one that is compiled, or it is loaded at the start. -/
def Loads (p : Plan) (moduleName : String) : Prop :=
  moduleName = p.current ∨ moduleName ∈ p.bootstrap

/-- The modules of all entries are loaded. The modules loaded at the start are the referenced ones
    that take part, each once, and a chain wraps the registered services that expose its target. -/
structure LoadsModules (p : Plan) (g : Graph) : Prop where
  services : ∀ s ∈ p.services, p.Loads s.moduleName
  plugins : ∀ x ∈ p.plugins, p.Loads x.moduleName
  factories : ∀ f ∈ p.factories, p.Loads f.moduleName
  proxies : ∀ x ∈ p.proxies, p.Loads x.moduleName
  bindings : ∀ b ∈ p.bindings, p.Loads b.moduleName
  current : p.current = g.current
  nodup_bootstrap : p.bootstrap.Nodup
  mem_bootstrap_iff : ∀ name, name ∈ p.bootstrap ↔
    ∃ m ∈ g.modules, m.name = name ∧ m.participates = true ∧ m.name ≠ g.current
  mem_implementations_iff : ∀ c ∈ p.chains, ∀ name, name ∈ c.implementations ↔
    ∃ s ∈ p.services, s.name = name ∧ ∃ i ∈ s.interfaces, i.sameType c.target = true

end Plan

namespace Survey

variable {s : Survey}

/-! ## Modules -/

/-- The referenced modules that take part are loaded at the start. -/
theorem mem_bootstrap_iff {name : String} :
    name ∈ s.plan.bootstrap ↔
      ∃ m ∈ s.graph.modules, m.name = name ∧ m.participates = true ∧ m.name ≠ s.graph.current := by
  have hsorted : name ∈ s.plan.bootstrap ↔ name ∈ s.graph.participating.map (·.name) :=
    List.mem_sortDistinct
  rw [hsorted, List.mem_map]
  simp only [Graph.participating, Graph.isCurrent, List.mem_sortBy, List.mem_filter,
    Bool.and_eq_true, Bool.not_eq_true', beq_eq_false_iff_ne, ne_comm (a := s.graph.current)]
  refine exists_congr fun m => ?_
  grind

/-- No module is loaded twice. -/
theorem nodup_bootstrap (s : Survey) : s.plan.bootstrap.Nodup := by
  have hincreasing := List.pairwise_sortDistinct compare (s.graph.participating.map (·.name))
  refine hincreasing.imp fun {a b} hlt => ?_
  rintro rfl
  exact (List.irrefl_lt compare).irrefl a hlt

/-- The module of a scanned declaration is loaded, as it is the one that lists the declaration. -/
theorem loads_of_mem_scannedTypes (hwf : s.graph.WellFormed) {d : Declaration}
    (hd : d ∈ s.graph.scannedTypes) : s.plan.Loads d.moduleName := by
  obtain ⟨m, hm, hscanned, hlisted⟩ := Graph.mem_scannedTypes.mp hd
  -- The check makes the declaration name the module that lists it
  rw [hwf.listed m hm d hlisted]
  by_cases hcurrent : m.name = s.graph.current
  · exact .inl hcurrent
  · have hparticipates := hscanned.resolve_left hcurrent
    exact .inr (mem_bootstrap_iff.mpr ⟨m, hm, rfl, hparticipates, hcurrent⟩)

/-- What stands where the declaration stands that it was made of is in a module that is loaded. -/
theorem loads_of_mem_sortBy (hwf : s.graph.WellFormed) {α : Type} {found : List α} {role : Role}
    {make : Declaration → List α} {cmp : α → α → Ordering} (place : α → Placement)
    (hfound : found = s.plannedTypes.flatMap fun d => if s.plays d role then make d else [])
    (hplace : ∀ d, ∀ a ∈ make d, place a = d.placement) :
    ∀ a ∈ found.sortBy cmp, s.plan.Loads (place a).moduleName := by
  intro a ha
  obtain ⟨d, hd, hmade⟩ := exists_declaration_of_mem_sortBy hfound ha
  rw [hplace d a hmade]
  exact loads_of_mem_scannedTypes hwf hd

/-! ## Implementations -/

/-- A chain wraps the registered services that expose an interface of the type of its target. -/
theorem mem_implementations_iff {c : Chain} (hc : c ∈ s.plan.chains) {name : String} :
    name ∈ c.implementations ↔
      ∃ service ∈ s.plan.services, service.name = name ∧
        ∃ i ∈ service.interfaces, i.sameType c.target = true := by
  obtain ⟨target, -, rfl⟩ := List.mem_map.mp (List.mem_sortBy.mp hc)
  have hregistered : ∀ service, service ∈ s.plan.services ↔ service ∈ s.allFindings.services :=
    fun service => List.mem_sortBy
  simp only [Chain.of, Service.exposes, List.mem_sortDistinct, List.mem_map, List.mem_filter,
    List.any_eq_true, hregistered]
  exact exists_congr fun service => by rw [and_assoc, and_comm (a := service.name = name)]

end Survey

/-- The plan of a graph that passes the check registers nothing from a module that is not loaded. -/
theorem plan_loads_modules (g : Graph) (o : Options) (hvalid : g.validate = .ok ()) :
    ∃ p, g.plan o = .ok p ∧ p.LoadsModules g := by
  have hwf := Graph.validate_eq_ok_iff.mp hvalid
  let s : Survey := ⟨g, o⟩
  refine ⟨s.plan, Graph.plan_eq_ok hvalid o, ?_⟩
  exact {
    services := Survey.loads_of_mem_sortBy hwf Service.placement s.services_allFindings
      fun d _ hmade => Survey.placement_of_service? (Option.mem_toList.mp hmade)
    plugins := Survey.loads_of_mem_sortBy hwf Plugin.placement s.plugins_allFindings
      fun d _ hmade => congrArg Plugin.placement (List.mem_singleton.mp hmade)
    factories := Survey.loads_of_mem_sortBy hwf Factory.placement s.factories_allFindings
      fun d _ hmade => Declaration.placement_of_factory? (Option.mem_toList.mp hmade)
    proxies := Survey.loads_of_mem_sortBy hwf Proxy.placement s.proxies_allFindings
      fun d _ hmade => Declaration.placement_of_proxy? (Option.mem_toList.mp hmade)
    bindings := by
      intro b hb
      obtain ⟨d, hd, hbinding⟩ := Survey.exists_declaration_of_mem_plan_bindings hb
      obtain ⟨request, -, rfl⟩ := List.mem_map.mp hbinding
      exact Survey.loads_of_mem_scannedTypes hwf hd
    current := rfl
    nodup_bootstrap := s.nodup_bootstrap
    mem_bootstrap_iff := fun _ => Survey.mem_bootstrap_iff
    mem_implementations_iff := fun _ hc _ => Survey.mem_implementations_iff hc }

/-- Of two clocks, one in a module that takes part, both are in modules that are loaded. -/
theorem clocks_load_modules :
    (Graph.clocks "Backup.Clock").validate = .ok () ∧
      ∃ p, (Graph.clocks "Backup.Clock").plan {} = .ok p ∧
        p.LoadsModules (Graph.clocks "Backup.Clock") :=
  ⟨by decide, plan_loads_modules (Graph.clocks "Backup.Clock") {} (by decide)⟩

end Wiring
