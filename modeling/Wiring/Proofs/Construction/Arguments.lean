/-
  Wiring.Proofs.Construction.Arguments

  The arguments that a chosen constructor is called with. Each choice is taken apart once: which
  constructor it picks, and what stands for each of its parameters. `Construction.Calls` says what
  all choices have in common, and closing the construction of an open decorator keeps it.
-/

import Wiring.Proofs.Decoration.Closing
import Wiring.Proofs.Survey.Registration

namespace Wiring

/-! ## What an argument may be -/

/-- The container supplies references to closed classes and interfaces, but not to the type that
    asks. -/
def TypeRef.IsSuppliedTo (ref : TypeRef) (typeName : String) : Prop :=
  (ref.kind = .classType ∨ ref.kind = .interface) ∧ ref.isOpen = false ∧ ref.name ≠ typeName

namespace Argument

/-- The container supplies the argument, by its type or by its type and a key. -/
def IsInjected (a : Argument) : Prop := a.source = .service ∨ ∃ key, a.source = .keyed key

/-- The argument stands for a parameter of the type. If the container supplies it, the container
    can do so, and it asks for a key exactly if the parameter carries that key. -/
structure AnswersFor (a : Argument) (p : Parameter) (typeName : String) : Prop where
  name : a.name = p.name
  type : a.IsInjected → a.type = p.type
  supplied : a.IsInjected → a.type.IsSuppliedTo typeName
  keyed : a.IsInjected → ∀ key, a.source = .keyed key ↔ p.key = some key

variable {a : Argument} {p : Parameter} {typeName : String}

theorem isInjected_injected (p : Parameter) : (injected p).IsInjected := by
  unfold IsInjected injected
  cases p.key with
  | none => exact .inl rfl
  | some key => exact .inr ⟨key, rfl⟩

theorem not_isInjected_fromCaller (p : Parameter) : ¬ (fromCaller p).IsInjected := by
  simp [IsInjected, fromCaller]

theorem not_isInjected_fromInner (p : Parameter) : ¬ (fromInner p).IsInjected := by
  simp [IsInjected, fromInner]

theorem injected_source_ne_inner (p : Parameter) : (injected p).source ≠ .inner := by
  unfold injected
  cases p.key <;> exact nofun

theorem injected_source_ne_caller (p : Parameter) : (injected p).source ≠ .caller := by
  unfold injected
  cases p.key <;> exact nofun

theorem answersFor_injected (h : p.type.IsSuppliedTo typeName) :
    (injected p).AnswersFor p typeName := by
  refine ⟨rfl, fun _ => rfl, fun _ => h, fun _ key => ?_⟩
  unfold injected
  cases p.key <;> simp

/-- An argument that the container does not supply only has to bear the name of its parameter. -/
theorem answersFor_of_not_isInjected (hname : a.name = p.name) (h : ¬ a.IsInjected) :
    a.AnswersFor p typeName :=
  ⟨hname, fun hi => absurd hi h, fun hi => absurd hi h, fun hi => absurd hi h⟩

/-- What the container supplies is closed, so replacing type parameters leaves it as it is. -/
theorem AnswersFor.substitute (h : a.AnswersFor p typeName) (bindings : TypeBindings) :
    (a.substitute bindings).AnswersFor p typeName := by
  by_cases hi : a.IsInjected
  · have hsame : a.substitute bindings = a := by
      unfold Argument.substitute
      rw [TypeRef.substitute_of_closed bindings a.type (h.supplied hi).2.1]
    rwa [hsame]
  · exact answersFor_of_not_isInjected h.name hi

end Argument

/-- The construction calls a constructor that the declaration offers, with one argument for each of
    its parameters. -/
def Construction.Calls (c : Construction) (d : Declaration) : Prop :=
  ∃ e ∈ d.effectiveConstructors, e.1 = c.index ∧
    List.Forall₂ (fun a p => a.AnswersFor p d.name) c.arguments e.2.parameters

/-- Closing a construction leaves the constructor that it calls. -/
theorem Construction.Calls.substitute {c : Construction} {d : Declaration} (h : c.Calls d)
    (bindings : TypeBindings) : (c.substitute bindings).Calls d := by
  obtain ⟨e, he, hindex, harguments⟩ := h
  refine ⟨e, he, hindex, ?_⟩
  rw [Construction.substitute, List.forall₂_map_left_iff]
  exact harguments.imp fun a p hanswers => hanswers.substitute bindings

/-- One argument made for each parameter stands for it. -/
theorem Argument.forall₂_answersFor_map {make : Parameter → Argument} {typeName : String}
    {ps : List Parameter} (h : ∀ p ∈ ps, (make p).AnswersFor p typeName) :
    List.Forall₂ (fun a p => a.AnswersFor p typeName) (ps.map make) ps := by
  rw [List.forall₂_map_left_iff, List.forall₂_same]
  exact h

namespace Declaration

variable {d : Declaration} {c : Construction}

/-! ## Services -/

/-- A service is constructed by a constructor of which the container supplies every parameter. -/
theorem exists_of_construction?_eq_some (h : d.construction? = some c) :
    ∃ e ∈ d.effectiveConstructors, (∀ p ∈ e.2.parameters, p.type.IsSuppliedTo d.name) ∧
      c = ⟨e.1, e.2.parameters.map Argument.injected⟩ := by
  obtain ⟨e, hbest, rfl⟩ := Option.map_eq_some_iff.mp h
  obtain ⟨he, hinject⟩ := List.mem_filter.mp (mem_of_widest_eq_some hbest)
  refine ⟨e, he, fun p hp => ?_, rfl⟩
  exact canInject_iff.mp (List.all_eq_true.mp hinject p hp)

theorem calls_of_construction?_eq_some (h : d.construction? = some c) : c.Calls d := by
  obtain ⟨e, he, hsupplied, rfl⟩ := exists_of_construction?_eq_some h
  refine ⟨e, he, rfl, Argument.forall₂_answersFor_map fun p hp => ?_⟩
  exact Argument.answersFor_injected (hsupplied p hp)

/-- The container supplies every argument of a service. -/
theorem isInjected_of_construction?_eq_some (h : d.construction? = some c) :
    ∀ a ∈ c.arguments, a.IsInjected := by
  obtain ⟨e, -, -, rfl⟩ := exists_of_construction?_eq_some h
  intro a ha
  obtain ⟨p, -, rfl⟩ := List.mem_map.mp ha
  exact Argument.isInjected_injected p

/-! ## Factories -/

/-- Inside a factory the container supplies the parameters that it can, and the caller the
    others. -/
theorem exists_of_factoryConstruction?_eq_some (h : d.factoryConstruction? = some c) :
    ∃ e ∈ d.effectiveConstructors,
      c = ⟨e.1, e.2.parameters.map fun p =>
        if d.canInject p then Argument.injected p else Argument.fromCaller p⟩ := by
  obtain ⟨e, hbest, rfl⟩ := Option.map_eq_some_iff.mp h
  exact ⟨e, mem_of_widest_eq_some hbest, rfl⟩

theorem calls_of_factoryConstruction?_eq_some (h : d.factoryConstruction? = some c) :
    c.Calls d := by
  obtain ⟨e, he, rfl⟩ := exists_of_factoryConstruction?_eq_some h
  refine ⟨e, he, rfl, Argument.forall₂_answersFor_map fun p _ => ?_⟩
  split
  · rename_i hinject
    exact Argument.answersFor_injected (canInject_iff.mp hinject)
  · exact Argument.answersFor_of_not_isInjected rfl (Argument.not_isInjected_fromCaller p)

/-- An argument of a factory comes from the caller exactly if the container cannot supply its
    type. -/
theorem fromCaller_iff_of_factoryConstruction?_eq_some (h : d.factoryConstruction? = some c) :
    ∀ a ∈ c.arguments, (a.source = .caller ↔ ¬ a.type.IsSuppliedTo d.name) ∧
      (a.source = .caller ∨ a.IsInjected) := by
  obtain ⟨e, -, rfl⟩ := exists_of_factoryConstruction?_eq_some h
  intro a ha
  obtain ⟨p, -, rfl⟩ := List.mem_map.mp ha
  split
  · rename_i hinject
    have hsupplied : p.type.IsSuppliedTo d.name := canInject_iff.mp hinject
    refine ⟨iff_of_false (Argument.injected_source_ne_caller p) (not_not_intro hsupplied), ?_⟩
    exact .inr (Argument.isInjected_injected p)
  · rename_i hinject
    have hlacks : ¬ p.type.IsSuppliedTo d.name := fun h => hinject (canInject_iff.mpr h)
    exact ⟨iff_of_true rfl hlacks, .inl rfl⟩

/-! ## Decorators -/

/-- A constructor decorates a target if the container supplies every parameter but the first one of
    the target's type, which takes the decorated instance. -/
theorem decoratorArguments_eq_some_iff {target : TypeRef} {ps : List Parameter}
    {arguments : List Argument} :
    d.decoratorArguments target ps = some arguments ↔
      ∃ before inner after, ps = before ++ inner :: after ∧
        (∀ p ∈ before, p.type.sameType target = false) ∧ inner.type.sameType target = true ∧
        (∀ p ∈ before ++ after, p.type.IsSuppliedTo d.name) ∧
        arguments = before.map Argument.injected ++
          Argument.fromInner inner :: after.map Argument.injected := by
  induction ps generalizing arguments with
  | nil =>
      refine iff_of_false (by simp [decoratorArguments]) ?_
      rintro ⟨before, inner, after, hsplit, -⟩
      simp at hsplit
  | cons p rest ih =>
      unfold decoratorArguments
      cases htarget : p.type.sameType target with
      | true =>
          -- The decorated instance goes here, so nothing stands before it
          rw [if_pos rfl, Option.ite_none_right_eq_some, Option.some.injEq, List.all_eq_true]
          refine ⟨?_, ?_⟩
          · rintro ⟨hinject, rfl⟩
            refine ⟨[], p, rest, rfl, by simp, htarget, fun q hq => ?_, rfl⟩
            exact canInject_iff.mp (hinject q hq)
          · rintro ⟨before, inner, after, hsplit, hbefore, -, hsupplied, rfl⟩
            cases before with
            | nil =>
                obtain ⟨rfl, rfl⟩ := List.cons.inj hsplit
                exact ⟨fun q hq => canInject_iff.mpr (hsupplied q hq), rfl⟩
            | cons q before =>
                obtain ⟨rfl, -⟩ := List.cons.inj hsplit
                exact absurd htarget (by simp [hbefore p (.head _)])
      | false =>
          -- The container supplies this parameter, and the split is that of the rest
          rw [if_neg Bool.false_ne_true, Option.ite_none_right_eq_some, Option.map_eq_some_iff]
          refine ⟨?_, ?_⟩
          · rintro ⟨hinject, others, hothers, rfl⟩
            obtain ⟨before, inner, after, rfl, hbefore, hinner, hsupplied, rfl⟩ := ih.mp hothers
            refine ⟨p :: before, inner, after, rfl, ?_, hinner, ?_, rfl⟩
            · exact List.forall_mem_cons.mpr ⟨htarget, hbefore⟩
            · exact List.forall_mem_cons.mpr ⟨canInject_iff.mp hinject, hsupplied⟩
          · rintro ⟨before, inner, after, hsplit, hbefore, hinner, hsupplied, rfl⟩
            cases before with
            | nil =>
                obtain ⟨rfl, -⟩ := List.cons.inj hsplit
                exact absurd htarget (by simp [hinner])
            | cons q before =>
                obtain ⟨rfl, rfl⟩ := List.cons.inj hsplit
                obtain ⟨hp, hrest⟩ := List.forall_mem_cons.mp hsupplied
                refine ⟨canInject_iff.mpr hp, _, ih.mpr ?_, rfl⟩
                exact ⟨before, inner, after, rfl, (List.forall_mem_cons.mp hbefore).2, hinner,
                  hrest, rfl⟩

/-- A decorator is constructed by a constructor that decorates its target. -/
theorem exists_of_decoratorConstruction?_eq_some {target : TypeRef}
    (h : d.decoratorConstruction? target = some c) :
    ∃ e ∈ d.effectiveConstructors, e.1 = c.index ∧
      d.decoratorArguments target e.2.parameters = some c.arguments := by
  obtain ⟨e, hbest, harguments⟩ := Option.bind_eq_some_iff.mp h
  obtain ⟨arguments, hsome, rfl⟩ := Option.map_eq_some_iff.mp harguments
  have hmem := List.mem_of_mem_filter (mem_of_widest_eq_some hbest)
  exact ⟨e, hmem, rfl, hsome⟩

theorem calls_of_decoratorConstruction?_eq_some {target : TypeRef}
    (h : d.decoratorConstruction? target = some c) : c.Calls d := by
  obtain ⟨e, he, hindex, harguments⟩ := exists_of_decoratorConstruction?_eq_some h
  obtain ⟨before, inner, after, hsplit, -, -, hsupplied, hall⟩ :=
    decoratorArguments_eq_some_iff.mp harguments
  have hinjected : ∀ ps : List Parameter, (∀ p ∈ ps, p ∈ before ++ after) →
      List.Forall₂ (fun a p => a.AnswersFor p d.name) (ps.map Argument.injected) ps :=
    fun ps hsub => Argument.forall₂_answersFor_map fun p hp =>
      Argument.answersFor_injected (hsupplied p (hsub p hp))
  have hinner : (Argument.fromInner inner).AnswersFor inner d.name :=
    Argument.answersFor_of_not_isInjected rfl (Argument.not_isInjected_fromInner inner)
  refine ⟨e, he, hindex, ?_⟩
  rw [hall, hsplit]
  refine List.rel_append (hinjected before fun p hp => ?_) (.cons hinner
    (hinjected after fun p hp => ?_))
  · exact List.mem_append_left _ hp
  · exact List.mem_append_right _ hp

/-- An argument of a decorator has the type of a parameter of the constructor. -/
theorem exists_parameter_of_decoratorConstruction?_eq_some {target : TypeRef}
    (h : d.decoratorConstruction? target = some c) :
    ∀ a ∈ c.arguments, ∃ e ∈ d.effectiveConstructors, ∃ p ∈ e.2.parameters, a.type = p.type := by
  obtain ⟨e, he, -, harguments⟩ := exists_of_decoratorConstruction?_eq_some h
  obtain ⟨before, inner, after, hsplit, -, -, -, hall⟩ :=
    decoratorArguments_eq_some_iff.mp harguments
  have htypes : c.arguments.map (·.type) = e.2.parameters.map (·.type) := by
    rw [hall, hsplit]
    simp only [List.map_append, List.map_cons, List.map_map]
    rfl
  intro a ha
  have hmem := List.mem_map_of_mem (f := fun a : Argument => a.type) ha
  rw [htypes] at hmem
  obtain ⟨p, hp, htype⟩ := List.mem_map.mp hmem
  exact ⟨e, he, p, hp, htype.symm⟩

/-- One argument of a decorator takes the decorated instance, and none comes from a caller. -/
theorem countP_inner_of_decoratorConstruction?_eq_some {target : TypeRef}
    (h : d.decoratorConstruction? target = some c) :
    c.arguments.countP (·.source == .inner) = 1 ∧ ∀ a ∈ c.arguments, a.source ≠ .caller := by
  obtain ⟨e, -, -, harguments⟩ := exists_of_decoratorConstruction?_eq_some h
  obtain ⟨before, inner, after, -, -, -, -, hall⟩ := decoratorArguments_eq_some_iff.mp harguments
  have hnone : ∀ ps : List Parameter,
      (ps.map Argument.injected).countP (·.source == .inner) = 0 := by
    intro ps
    rw [List.countP_map, List.countP_eq_zero]
    intro p _
    simpa using Argument.injected_source_ne_inner p
  rw [hall]
  refine ⟨?_, fun a ha => ?_⟩
  · rw [List.countP_append, List.countP_cons, hnone, hnone]
    rfl
  · rcases List.mem_append.mp ha with hbefore | hafter
    · obtain ⟨p, -, rfl⟩ := List.mem_map.mp hbefore
      exact Argument.injected_source_ne_caller p
    · rcases List.mem_cons.mp hafter with rfl | hafter
      · exact nofun
      · obtain ⟨p, -, rfl⟩ := List.mem_map.mp hafter
        exact Argument.injected_source_ne_caller p

end Declaration
end Wiring
