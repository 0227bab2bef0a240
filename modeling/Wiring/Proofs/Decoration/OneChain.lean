/-
  Wiring.Proofs.Decoration.OneChain

  How many chains wrap the implementations of a type. Decorators share a chain if their targets have
  the same text, and a chain wraps the services that expose an interface of the same type as its
  target. The text of a reference shows its marks of nullability, which do not count for the type;
  so a type has one chain for each way in which the targets mark it, and a single one if all of
  them mark it alike.
-/

import Wiring.Proofs.Decoration.Applied
import Wiring.Proofs.TypeRef.SameType
import Mathlib.Data.List.Pairwise
import Mathlib.Data.List.Permutation

namespace Wiring

/-- No two chains have targets of the same type, so none of the services that expose an interface
    is wrapped by two chains of the interface. -/
structure Plan.HasOneChainPerType (p : Plan) : Prop where
  targets : p.chains.Pairwise fun c c' => c.target.sameType c'.target = false
  implementations : ∀ (type : TypeRef) (name : String),
    p.chains.countP (fun c => c.target.sameType type && c.implementations.contains name) ≤ 1

namespace Graph

/-- The references that decorators may be applied to: the targets that markers name, and the
    interfaces. -/
def decorable (g : Graph) : List TypeRef :=
  g.types.flatMap fun d => (d.markers.filterMap Marker.decorated?).map (·.1) ++ d.interfaces

/-- Of the references that decorators may be applied to, those of one type are marked as nullable at
    the same places. -/
def MarksAlike (g : Graph) : Prop :=
  ∀ a ∈ g.decorable, ∀ b ∈ g.decorable, a.sameType b = true → a.withoutKinds = b.withoutKinds

end Graph

/-! ## Targets -/

namespace Survey

variable {s : Survey} {x : Decorator}

/-- Decorators are closed over interfaces that declarations name. -/
theorem exists_interface_of_mem_closeAll
    (h : x ∈ OpenDecorator.closeAll s.allFindings.openDecorators
      (s.allFindings.services.flatMap (·.interfaces))) :
    ∃ d ∈ s.graph.types, x.target ∈ d.interfaces := by
  obtain ⟨o, -, interface, hused, hclose⟩ := OpenDecorator.exists_closeOver_of_mem_closeAll h
  rw [OpenDecorator.target_of_closeOver hclose]
  -- The interface is one that a service exposes
  obtain ⟨service, hservice, hexposed⟩ := List.mem_flatMap.mp hused
  rw [services_allFindings, mem_flatMap_plays] at hservice
  obtain ⟨d, hd, -, hmade⟩ := hservice
  obtain ⟨c, -, rfl⟩ := Option.map_eq_some_iff.mp (Option.mem_toList.mp hmade)
  have hdeclared := List.mem_of_mem_filter ((List.distinctOn_sublist _ _).mem hexposed)
  exact ⟨d, s.graph.scannedTypes_sublist.mem hd, hdeclared⟩

theorem target_mem_decorable (h : x ∈ s.allFindings.closedDecorators) :
    x.target ∈ s.graph.decorable := by
  unfold Graph.decorable
  rw [List.mem_flatMap]
  rcases List.mem_append.mp h with hdeclared | hclosed
  · rw [decorators_allFindings, mem_flatMap_plays] at hdeclared
    obtain ⟨d, hd, -, hfound⟩ := hdeclared
    refine ⟨d, s.graph.scannedTypes_sublist.mem hd, List.mem_append_left _ ?_⟩
    obtain ⟨target, place, c, hmarker, -, rfl⟩ := Declaration.mem_decorators_iff.mp hfound
    have hentry := List.mem_filterMap.mpr ⟨_, hmarker, Marker.decorated?_eq_some_iff.mpr rfl⟩
    exact List.mem_map.mpr ⟨_, hentry, rfl⟩
  · obtain ⟨d, hd, hinterface⟩ := exists_interface_of_mem_closeAll hclosed
    exact ⟨d, hd, List.mem_append_right _ hinterface⟩

end Survey

/-! ## Chains -/

/-- No two chains of a plan have targets that agree in everything but their kinds. -/
theorem Survey.pairwise_chains (s : Survey) :
    s.plan.chains.Pairwise fun c c' => c.target.withoutKinds ≠ c'.target.withoutKinds := by
  have htexts := List.pairwise_map.mp s.nodup_texts_chains
  exact htexts.imp fun hne hsame => hne (TypeRef.text_eq_of_withoutKinds_eq hsame)

namespace Plan

variable {p : Plan}

/-- Where the targets are of different types, a service gets one chain for each interface. -/
theorem hasOneChainPerType_of_pairwise
    (h : p.chains.Pairwise fun c c' => c.target.sameType c'.target = false) :
    p.HasOneChainPerType := by
  refine ⟨h, fun type name => ?_⟩
  rw [List.countP_eq_length_filter]
  -- The chains for the type are of the same type as each other, so there are no two of them
  have hfiltered := h.filter fun c => c.target.sameType type && c.implementations.contains name
  cases hchains : p.chains.filter fun c =>
      c.target.sameType type && c.implementations.contains name with
  | nil => exact Nat.zero_le 1
  | cons c rest =>
      cases rest with
      | nil => exact Nat.le_refl 1
      | cons c' rest =>
          have htype : ∀ e ∈ c :: c' :: rest, e.target.sameType type = true := by
            intro e he
            rw [← hchains, List.mem_filter, Bool.and_eq_true] at he
            exact he.2.1
          rw [hchains, List.pairwise_cons] at hfiltered
          have hsame := TypeRef.sameType_of_sameType (htype c (.head _))
            (htype c' (.tail _ (.head _)))
          exact absurd (hfiltered.1 c' (.head _)) (by simp [hsame])

/-- Where no two targets agree in everything but their kinds, there is one chain for each type
    exactly if targets of one type are marked as nullable at the same places. -/
theorem hasOneChainPerType_iff_of_pairwise
    (h : p.chains.Pairwise fun c c' => c.target.withoutKinds ≠ c'.target.withoutKinds) :
    p.HasOneChainPerType ↔ ∀ c ∈ p.chains, ∀ c' ∈ p.chains,
      c.target.sameType c'.target = true → c.target.withoutKinds = c'.target.withoutKinds := by
  refine ⟨fun hone c hc c' hc' hsame => ?_, fun halike => hasOneChainPerType_of_pairwise ?_⟩
  · -- Two chains with targets of the same type are one chain
    by_contra hne
    have hsymm : Std.Symm fun c c' : Chain => c.target.sameType c'.target = false :=
      ⟨fun a b hab => (TypeRef.sameType_comm b.target a.target).trans hab⟩
    have hdiffer := hone.targets.forall hc hc' fun heq => hne (heq ▸ rfl)
    exact absurd hdiffer (by simp [hsame])
  · refine h.imp_of_mem fun {c c'} hc hc' hne => ?_
    exact Bool.eq_false_iff.mpr fun hsame => hne (halike c hc c' hc' hsame)

end Plan

/-- The plan of a graph that passes the check has one chain for each type exactly if the targets of
    its chains that are of one type are marked as nullable at the same places; and they are if the
    declarations mark them so. -/
theorem plan_has_one_chain_per_type_iff (g : Graph) (o : Options) (hvalid : g.validate = .ok ()) :
    ∃ p, g.plan o = .ok p ∧
      (p.HasOneChainPerType ↔ ∀ c ∈ p.chains, ∀ c' ∈ p.chains,
        c.target.sameType c'.target = true →
          c.target.withoutKinds = c'.target.withoutKinds) ∧
      (g.MarksAlike → p.HasOneChainPerType) := by
  have hiff := Plan.hasOneChainPerType_iff_of_pairwise (Survey.mk g o).pairwise_chains
  refine ⟨_, Graph.plan_eq_ok hvalid o, hiff, fun hmarks => hiff.mpr ?_⟩
  intro c hc c' hc'
  obtain ⟨⟨x, hx, htarget⟩, -⟩ := Survey.exists_of_mem_chains hc
  obtain ⟨⟨x', hx', htarget'⟩, -⟩ := Survey.exists_of_mem_chains hc'
  rw [htarget, htarget']
  exact hmarks _ (Survey.target_mem_decorable hx) _ (Survey.target_mem_decorable hx')

/-- A decorator of one target. -/
def Declaration.wrapper (name : String) (target : TypeRef) (place : Int32) : Declaration :=
  ((ofClass "App" name).withConstructor { parameters := [⟨"inner", target, none⟩] }).withMarker
    (.decoratorFor target place)

/-- A build with a mailer and two decorators for it, the outer of which takes the reference it is
    given as in the argument. -/
def Graph.mailRoom (outer : TypeRef) : Graph where
  current := "App"
  modules := [{
    name := "App"
    types := [
      (Declaration.ofClass "App" "App.Mailer").implementing (.ofInterface "App.IMailer"),
      .wrapper "App.Signing" (.ofInterface "App.IMailer") 1,
      .wrapper "App.Logging" outer 2] }]

theorem mailRoom_has_one_chain_per_type :
    (Graph.mailRoom (.ofInterface "App.IMailer")).validate = .ok () ∧
      (Graph.mailRoom (.ofInterface "App.IMailer")).MarksAlike ∧
      ∃ p, (Graph.mailRoom (.ofInterface "App.IMailer")).plan {} = .ok p ∧
        p.HasOneChainPerType := by
  have hmarks : (Graph.mailRoom (.ofInterface "App.IMailer")).MarksAlike := by
    unfold Graph.MarksAlike
    decide
  obtain ⟨p, hp, -, hone⟩ :=
    plan_has_one_chain_per_type_iff (Graph.mailRoom (.ofInterface "App.IMailer")) {} (by decide)
  exact ⟨by decide, hmarks, p, hp, hone hmarks⟩

/-- If the outer decorator takes a mailer that may be missing, the mailer gets two chains. -/
theorem nullable_mailRoom_has_two_chains :
    (Graph.mailRoom (TypeRef.ofInterface "App.IMailer").orNull).validate = .ok () ∧
      ∃ p, (Graph.mailRoom (TypeRef.ofInterface "App.IMailer").orNull).plan {} = .ok p ∧
        ¬ p.HasOneChainPerType := by
  have hvalid : (Graph.mailRoom (TypeRef.ofInterface "App.IMailer").orNull).validate = .ok () := by
    decide
  refine ⟨hvalid, _, Graph.plan_eq_ok hvalid {}, fun hone => ?_⟩
  have htwo : (Survey.mk (Graph.mailRoom (TypeRef.ofInterface "App.IMailer").orNull)
      {}).plan.chains.countP (fun c => c.target.sameType (.ofInterface "App.IMailer") &&
        c.implementations.contains "App.Mailer") = 2 := by
    cbv
  have hle := hone.implementations (.ofInterface "App.IMailer") "App.Mailer"
  omega

end Wiring
