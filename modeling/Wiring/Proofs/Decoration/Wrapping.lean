/-
  Wiring.Proofs.Decoration.Wrapping

  When a decorator wraps itself. The container supplies no decorator with an instance of its own
  type, but the argument that takes the decorated instance has the type that the marker names as the
  target, whichever that is. The main statement is that a layer of a plan takes an argument of its
  own type exactly if the marker behind it names that type.
-/

import Wiring.Proofs.Decoration.OneChain
import Wiring.Proofs.Plan.Arguments
import Wiring.Proofs.TypeRef.Instance
import Mathlib.Data.List.Permutation

namespace Wiring

namespace Layer

/-- An argument of the layer has the name of the decorator itself. -/
def WrapsItself (l : Layer) : Prop :=
  ∃ a ∈ l.construction.arguments, a.type.name = l.decorator.name

/-- The layer is what a marker of the declaration asks for with the target. It takes its own type
    for the decorated instance at most, and does so exactly if the target is named so; of an open
    target, type parameters in its arguments must not be named like the target itself. -/
structure WrapsByTarget (l : Layer) (d : Declaration) (target : TypeRef) : Prop where
  name : l.decorator.name = d.name
  marked : (if l.synthesized then Marker.openDecoratorFor target l.order
    else .decoratorFor target l.order) ∈ d.markers
  inner : ∀ a ∈ l.construction.arguments, a.type.name = l.decorator.name → a.source = .inner
  wraps_iff : (l.synthesized = true →
      target.name ∉ TypeRef.freeParametersAll (d.ownTarget target).args) →
    (l.WrapsItself ↔ target.name = d.name)

end Layer

/-- No marker names the declared type as the target of a decorator, and no type parameter in the
    arguments of an open target is named like the target itself. -/
structure Declaration.DecoratesOthers (d : Declaration) : Prop where
  declared : ∀ target place, .decoratorFor target place ∈ d.markers → target.name ≠ d.name
  opened : ∀ target place, .openDecoratorFor target place ∈ d.markers →
    target.name ≠ d.name ∧ target.name ∉ TypeRef.freeParametersAll (d.ownTarget target).args

/-! ## Names -/

/-- A reference keeps its name if nothing of this name is replaced. -/
theorem TypeRef.name_substitute_of_not_mem {ref : TypeRef} {bindings : TypeBindings}
    (h : ref.name ∉ bindings.map Prod.fst) : (ref.substitute bindings).name = ref.name := by
  cases ref
  rw [substitute, TypeBindings.lookup_eq_none_of_not_mem_names h, Option.getD_none, ite_self]

namespace Declaration

variable {d : Declaration} {x : Decorator} {c : Construction} {target : TypeRef}

/-- In its own type parameters a decorator names the same target. -/
theorem name_ownTarget (d : Declaration) (target : TypeRef) :
    (d.ownTarget target).name = target.name := by
  have hshape : ∀ ref : TypeRef, (ref.isOpen && ref.sameShape target) = true →
      ref.name = target.name := by
    intro ref h
    rw [TypeRef.sameShape, Bool.and_eq_true, Bool.and_eq_true, beq_iff_eq] at h
    exact h.2.1
  unfold ownTarget
  cases hfound : (d.interfaces.find? fun ref => ref.isOpen && ref.sameShape target).or
      ((d.effectiveConstructors.flatMap fun e => e.2.parameters.map (·.type)).find? fun ref =>
        ref.isOpen && ref.sameShape target) with
  | none => simp only [hfound, Option.getD_none]
  | some ref =>
      simp only [hfound, Option.getD_some]
      rcases Option.or_eq_some_iff.mp hfound with hinterface | ⟨-, hparameter⟩
      · exact hshape ref (List.find?_some (p := fun ref : TypeRef =>
          ref.isOpen && ref.sameShape target) hinterface)
      · exact hshape ref (List.find?_some (p := fun ref : TypeRef =>
          ref.isOpen && ref.sameShape target) hparameter)

/-! ## The decorated instance -/

/-- The argument that takes the decorated instance is named like the target. -/
theorem name_inner_of_decoratorConstruction?_eq_some (h : d.decoratorConstruction? target = some c) :
    ∀ a ∈ c.arguments, a.source = .inner → a.type.name = target.name := by
  obtain ⟨e, -, -, harguments⟩ := exists_of_decoratorConstruction?_eq_some h
  obtain ⟨before, inner, after, -, -, hinner, -, hall⟩ :=
    decoratorArguments_eq_some_iff.mp harguments
  rw [hall]
  intro a ha hsource
  rw [List.mem_append, List.mem_cons, List.mem_map, List.mem_map] at ha
  -- The arguments before and behind the decorated instance are supplied by the container
  rcases ha with ⟨p, -, rfl⟩ | rfl | ⟨p, -, rfl⟩
  · exact absurd hsource (Argument.injected_source_ne_inner p)
  · exact (TypeRef.sameType_iff_args.mp hinner).1
  · exact absurd hsource (Argument.injected_source_ne_inner p)

/-- What the container supplies is not named like the type that asks, so only the decorated instance
    can be. -/
theorem Applies.inner_of_name_eq (h : d.Applies x) :
    ∀ a ∈ x.construction.arguments, a.type.name = x.type.name → a.source = .inner := by
  obtain ⟨e, -, -, hanswers⟩ := h.calls
  intro a ha hself
  obtain ⟨p, -, hanswer⟩ := hanswers.flip.exists_left ha
  -- Of a parameter that the container supplies, the selection asks that it is not of the own type
  have hnot : ¬ a.IsInjected := fun hinjected =>
    (hanswer.supplied hinjected).2.2 (hself.trans h.name)
  cases hsource : a.source with
  | service => exact absurd (.inl hsource) hnot
  | keyed key => exact absurd (.inr ⟨key, hsource⟩) hnot
  | caller => exact absurd hsource (h.countP_inner.2 a ha)
  | inner => rfl

/-- A layer whose decorated instance is named like a target wraps itself exactly if the target has
    its own name. -/
theorem Applies.wrapsItself_iff (h : d.Applies x) (position : Nat) {name : String}
    (hinner : ∀ a ∈ x.construction.arguments, a.source = .inner → a.type.name = name) :
    (x.layer position).WrapsItself ↔ name = d.name := by
  refine ⟨?_, fun hname => ?_⟩
  · rintro ⟨a, ha, hself⟩
    calc name = a.type.name := (hinner a ha (h.inner_of_name_eq a ha hself)).symm
      _ = x.type.name := hself
      _ = d.name := h.name
  · -- One argument takes the decorated instance
    have hone : 0 < x.construction.arguments.countP (·.source == .inner) := by
      rw [h.countP_inner.1]
      exact Nat.one_pos
    obtain ⟨a, ha, hsource⟩ := List.countP_pos_iff.mp hone
    refine ⟨a, ha, ?_⟩
    calc a.type.name = name := hinner a ha (beq_iff_eq.mp hsource)
      _ = d.name := hname
      _ = x.type.name := h.name.symm

/-- A layer goes back to a marker, and it wraps itself exactly if the marker targets its type. -/
theorem Applies.exists_wrapsByTarget (h : d.Applies x) (position : Nat) :
    ∃ target, (x.layer position).WrapsByTarget d target := by
  have hwraps : ∀ name : String,
      (∀ a ∈ x.construction.arguments, a.source = .inner → a.type.name = name) →
        ((x.layer position).WrapsItself ↔ name = d.name) :=
    fun _ hinner => h.wrapsItself_iff position hinner
  have hname := h.name
  have hself := h.inner_of_name_eq
  cases h with
  | @declared target place c marked chosen =>
      exact ⟨target, hname, marked, hself, fun _ =>
        hwraps _ (name_inner_of_decoratorConstruction?_eq_some chosen)⟩
  | @synthesized target interface place c bindings marked _ chosen _ binds =>
      refine ⟨target, hname, marked, hself, fun hfree => hwraps _ fun a ha hsource => ?_⟩
      obtain ⟨b, hb, rfl⟩ := List.mem_map.mp ha
      have hnamed : b.type.name = target.name :=
        (name_inner_of_decoratorConstruction?_eq_some chosen b hb hsource).trans
          (d.name_ownTarget target)
      -- Matching binds the type parameters of the target, and none has the name of the target
      have hunbound : b.type.name ∉ bindings.map Prod.fst := by
        rw [hnamed, (TypeRef.bindAgainst_eq_some_iff.mp binds).2.mem_names_iff, List.map_nil,
          or_iff_right List.not_mem_nil]
        exact hfree rfl
      exact (TypeRef.name_substitute_of_not_mem hunbound).trans hnamed

end Declaration

/-! ## The plan -/

/-- Decorators that target other types wrap other types. -/
theorem Layer.WrapsByTarget.not_wrapsItself {l : Layer} {d : Declaration} {target : TypeRef}
    (h : l.WrapsByTarget d target) (hothers : d.DecoratesOthers) : ¬ l.WrapsItself := by
  have hmarked := h.marked
  cases hsynthesized : l.synthesized with
  | false =>
      rw [hsynthesized, if_neg Bool.false_ne_true] at hmarked
      rw [h.wraps_iff fun htrue => nomatch hsynthesized.symm.trans htrue]
      exact hothers.declared target l.order hmarked
  | true =>
      rw [hsynthesized, if_pos rfl] at hmarked
      obtain ⟨hname, hfree⟩ := hothers.opened target l.order hmarked
      rw [h.wraps_iff fun _ => hfree]
      exact hname

/-- A layer in the plan of a graph that passes the check wraps itself exactly if the marker behind
    it targets its own type, and with the decorated instance only; so none does if all decorators
    target other types. -/
theorem plan_wraps_itself_iff_targets_itself (g : Graph) (o : Options)
    (hvalid : g.validate = .ok ()) :
    ∃ p, g.plan o = .ok p ∧
      (∀ c ∈ p.chains, ∀ l ∈ c.layers, ∃ d ∈ g.scannedTypes, ∃ target, l.WrapsByTarget d target) ∧
      ((∀ d ∈ g.scannedTypes, (Survey.mk g o).plays d .decorator = true ∨
          (Survey.mk g o).plays d .openDecorator = true → d.DecoratesOthers) →
        ∀ c ∈ p.chains, ∀ l ∈ c.layers, ¬ l.WrapsItself) := by
  have htraced : ∀ c ∈ (Survey.mk g o).plan.chains, ∀ l ∈ c.layers, ∃ d ∈ g.scannedTypes,
      ((Survey.mk g o).plays d .decorator = true ∨
        (Survey.mk g o).plays d .openDecorator = true) ∧
      ∃ target, l.WrapsByTarget d target := by
    intro c hc l hl
    obtain ⟨x, hx, -, position, rfl⟩ := (Survey.exists_of_mem_chains hc).2 l hl
    obtain ⟨d, hd, hplays, happlies⟩ := Survey.exists_applies_of_mem_closedDecorators hx
    exact ⟨d, hd, hplays, happlies.exists_wrapsByTarget position⟩
  refine ⟨_, Graph.plan_eq_ok hvalid o, fun c hc l hl => ?_, fun hothers c hc l hl => ?_⟩
  · obtain ⟨d, hd, -, hwraps⟩ := htraced c hc l hl
    exact ⟨d, hd, hwraps⟩
  · obtain ⟨d, hd, hplays, target, hwraps⟩ := htraced c hc l hl
    exact hwraps.not_wrapsItself (hothers d hd hplays)

/-- What wraps a target of another name decorates others. -/
theorem Declaration.decoratesOthers_wrapper {name : String} {target : TypeRef} {place : Int32}
    (h : target.name ≠ name) : (wrapper name target place).DecoratesOthers := by
  have hmarkers : (wrapper name target place).markers = [.decoratorFor target place] := rfl
  refine ⟨fun t p hmem => ?_, fun t p hmem => ?_⟩
  · rw [hmarkers, List.mem_singleton, Marker.decoratorFor.injEq] at hmem
    rw [hmem.1]
    exact h
  · rw [hmarkers, List.mem_singleton] at hmem
    cases hmem

/-- Decorators of a mailer do not wrap themselves. -/
theorem mailRoom_wraps_mailers :
    (Graph.mailRoom (.ofInterface "App.IMailer")).validate = .ok () ∧
      (∀ d ∈ (Graph.mailRoom (.ofInterface "App.IMailer")).scannedTypes, d.DecoratesOthers) ∧
      ∃ p, (Graph.mailRoom (.ofInterface "App.IMailer")).plan {} = .ok p ∧
        (∀ c ∈ p.chains, ∀ l ∈ c.layers,
          ∃ d ∈ (Graph.mailRoom (.ofInterface "App.IMailer")).scannedTypes,
            ∃ target, l.WrapsByTarget d target) ∧
        ∀ c ∈ p.chains, ∀ l ∈ c.layers, ¬ l.WrapsItself := by
  have hvalid : (Graph.mailRoom (.ofInterface "App.IMailer")).validate = .ok () := by decide
  have hothers : ∀ d ∈ (Graph.mailRoom (.ofInterface "App.IMailer")).scannedTypes,
      d.DecoratesOthers := by
    rintro d (_ | ⟨_, _ | ⟨_, _ | ⟨_, ⟨⟩⟩⟩⟩)
    · -- The mailer has no markers
      exact ⟨nofun, nofun⟩
    · exact Declaration.decoratesOthers_wrapper (by decide)
    · exact Declaration.decoratesOthers_wrapper (by decide)
  obtain ⟨p, hp, htraced, hnone⟩ :=
    plan_wraps_itself_iff_targets_itself (Graph.mailRoom (.ofInterface "App.IMailer")) {} hvalid
  exact ⟨hvalid, hothers, p, hp, htraced, hnone fun d hd _ => hothers d hd⟩

/-- A decorator that targets its own type wraps itself. -/
theorem logging_wraps_itself :
    (Graph.mailRoom (.ofClass "App.Logging")).validate = .ok () ∧
      ∃ p, (Graph.mailRoom (.ofClass "App.Logging")).plan {} = .ok p ∧
        ∃ c ∈ p.chains, ∃ l ∈ c.layers, l.WrapsItself := by
  have hvalid : (Graph.mailRoom (.ofClass "App.Logging")).validate = .ok () := by decide
  have hwraps : ((Survey.mk (Graph.mailRoom (.ofClass "App.Logging")) {}).plan.chains.any fun c =>
      c.layers.any fun l => l.construction.arguments.any fun a =>
        a.type.name == l.decorator.name) = true := by
    cbv
  simp only [List.any_eq_true, beq_iff_eq] at hwraps
  exact ⟨hvalid, _, Graph.plan_eq_ok hvalid {}, hwraps⟩

end Wiring
