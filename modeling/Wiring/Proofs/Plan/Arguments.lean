/-
  Wiring.Proofs.Plan.Arguments

  What generated code is told to pass to a constructor. The main statement holds for everything
  that a plan constructs: a service gets nothing but what the container supplies, a factory asks its
  caller for exactly the rest, and a decorator takes the decorated instance once.
-/

import Wiring.Proofs.Construction.Arguments
import Wiring.Proofs.Decoration.Applied

namespace Wiring

/-- Every construction of a plan calls a constructor of the type that it constructs, and its
    arguments come from where its purpose allows. -/
structure Plan.SuppliesArguments (p : Plan) (g : Graph) : Prop where
  services : ∀ s ∈ p.services, ∃ d ∈ g.types, d.placement = s.placement ∧
    s.construction.Calls d ∧ ∀ a ∈ s.construction.arguments, a.IsInjected
  factories : ∀ f ∈ p.factories, ∃ d ∈ g.types, d.placement = f.placement ∧
    f.construction.Calls d ∧ ∀ a ∈ f.construction.arguments,
      (a.source = .caller ↔ ¬ a.type.IsSuppliedTo f.product) ∧
        (a.source = .caller ∨ a.IsInjected)
  layers : ∀ c ∈ p.chains, ∀ l ∈ c.layers, ∃ d ∈ g.types, d.name = l.decorator.name ∧
    l.construction.Calls d ∧ l.construction.arguments.countP (·.source == .inner) = 1 ∧
      ∀ a ∈ l.construction.arguments, a.source ≠ .caller

/-! ## Decorators -/

namespace Declaration

variable {d : Declaration} {x : Decorator}

/-- Whatever its type parameters stand for, a declared type keeps its name. -/
theorem name_substitute_toRef (d : Declaration) (bindings : TypeBindings) :
    (d.toRef.substitute bindings).name = d.name := by
  have hkind : d.kind.typeKind ≠ .typeParameter := by
    cases d.kind <;> exact nofun
  rw [toRef, TypeRef.substitute, if_neg hkind]

theorem Applies.name (h : d.Applies x) : x.type.name = d.name := by
  cases h with
  | declared => rfl
  | synthesized => exact d.name_substitute_toRef _

theorem Applies.calls (h : d.Applies x) : x.construction.Calls d := by
  cases h with
  | declared _ chosen => exact calls_of_decoratorConstruction?_eq_some chosen
  | synthesized _ _ chosen =>
      exact (calls_of_decoratorConstruction?_eq_some chosen).substitute _

/-- Closing a decorator changes the source of no argument. -/
theorem Applies.countP_inner (h : d.Applies x) :
    x.construction.arguments.countP (·.source == .inner) = 1 ∧
      ∀ a ∈ x.construction.arguments, a.source ≠ .caller := by
  cases h with
  | declared _ chosen => exact countP_inner_of_decoratorConstruction?_eq_some chosen
  | synthesized _ _ chosen =>
      obtain ⟨hinner, hcaller⟩ := countP_inner_of_decoratorConstruction?_eq_some chosen
      refine ⟨?_, fun a ha => ?_⟩
      · rw [Construction.substitute, List.countP_map]
        exact hinner
      · obtain ⟨b, hb, rfl⟩ := List.mem_map.mp ha
        exact hcaller b hb

end Declaration

/-! ## The plan -/

/-- The plan of a graph that passes the check supplies the arguments of all it constructs. -/
theorem plan_supplies_arguments (g : Graph) (o : Options) (hvalid : g.validate = .ok ()) :
    ∃ p, g.plan o = .ok p ∧ p.SuppliesArguments g := by
  let s : Survey := ⟨g, o⟩
  have hdeclared : ∀ d ∈ s.graph.scannedTypes, d ∈ g.types :=
    fun d hd => g.scannedTypes_sublist.mem hd
  refine ⟨s.plan, Graph.plan_eq_ok hvalid o, ?_, ?_, ?_⟩
  · -- Services
    intro service hservice
    have hfound : service ∈ s.allFindings.services := List.mem_sortBy.mp hservice
    rw [Survey.services_allFindings, Survey.mem_flatMap_plays] at hfound
    obtain ⟨d, hd, -, hmade⟩ := hfound
    obtain ⟨c, hc, rfl⟩ := Option.map_eq_some_iff.mp (Option.mem_toList.mp hmade)
    exact ⟨d, hdeclared d hd, rfl, Declaration.calls_of_construction?_eq_some hc,
      Declaration.isInjected_of_construction?_eq_some hc⟩
  · -- Factories
    intro factory hfactory
    have hfound : factory ∈ s.allFindings.factories := List.mem_sortBy.mp hfactory
    rw [Survey.factories_allFindings, Survey.mem_flatMap_plays] at hfound
    obtain ⟨d, hd, -, hmade⟩ := hfound
    obtain ⟨c, hc, rfl⟩ := Option.map_eq_some_iff.mp (Option.mem_toList.mp hmade)
    exact ⟨d, hdeclared d hd, rfl, Declaration.calls_of_factoryConstruction?_eq_some hc,
      Declaration.fromCaller_iff_of_factoryConstruction?_eq_some hc⟩
  · -- Layers of chains
    intro c hc l hl
    obtain ⟨-, hlayers⟩ := Survey.exists_of_mem_chains hc
    obtain ⟨x, hx, -, position, rfl⟩ := hlayers l hl
    obtain ⟨d, hd, -, happlies⟩ := Survey.exists_applies_of_mem_closedDecorators hx
    exact ⟨d, hdeclared d hd, happlies.name.symm, happlies.calls, happlies.countP_inner⟩

/-- A build with a keyed parameter, a factory that asks for a title, and a decorator of all
    handlers. -/
def Graph.orderDesk : Graph where
  current := "App"
  modules := [{
    name := "App"
    types := [
      (Declaration.ofClass "App" "App.OrderHandler").implementing
          (.handlerOf (.ofClass "App.Order")) |>.withConstructor
        { parameters := [⟨"orders", .ofInterface "App.IOrders", some "primary"⟩] },
      (Declaration.ofClass "App" "App.Report").withMarker .factorySource |>.withConstructor
        { parameters := [⟨"title", .string, none⟩, ⟨"orders", .ofInterface "App.IOrders", none⟩] },
      .clockedAudit] }]

theorem orderDesk_supplies_arguments :
    Graph.orderDesk.validate = .ok () ∧
      ∃ p, Graph.orderDesk.plan {} = .ok p ∧ p.SuppliesArguments Graph.orderDesk :=
  ⟨by decide, plan_supplies_arguments Graph.orderDesk {} (by decide)⟩

end Wiring
