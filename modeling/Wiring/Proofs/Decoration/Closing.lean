/-
  Wiring.Proofs.Decoration.Closing

  Closing an open decorator and choosing its constructor, in either order. An open decorator
  chooses its constructor in its own type parameters and is closed afterwards; written closed, it
  would choose with the parameters replaced.
-/

import Wiring.Proofs.Construction.Widest
import Wiring.Proofs.Survey.Findings
import Wiring.Proofs.TypeRef.Substitution

/-- Two tests find the first element at the same place of a list exactly if they agree on its head
    and, where they pass over it, find it at the same place of the rest. -/
theorem List.findIdx?_cons_eq_iff {α : Type} {p q : α → Bool} {x : α} {xs : List α} :
    (x :: xs).findIdx? p = (x :: xs).findIdx? q ↔
      p x = q x ∧ (q x = false → xs.findIdx? p = xs.findIdx? q) := by
  rw [findIdx?_cons, findIdx?_cons]
  cases p x <;> cases q x <;> cases xs.findIdx? p <;> cases xs.findIdx? q <;> simp

namespace Wiring

/-! ## A declaration written closed -/

/-- The parameter with the type parameters in its type replaced. -/
def Parameter.substitute (bindings : TypeBindings) (p : Parameter) : Parameter :=
  { p with type := p.type.substitute bindings }

/-- The constructor with the type parameters of its parameters replaced. -/
def Constructor.substitute (bindings : TypeBindings) (c : Constructor) : Constructor :=
  { c with parameters := c.parameters.map (Parameter.substitute bindings) }

/-- The construction with the type parameters of its arguments replaced. -/
def Construction.substitute (bindings : TypeBindings) (c : Construction) : Construction :=
  ⟨c.index, c.arguments.map (Argument.substitute bindings)⟩

namespace Declaration

/-- The declaration as it would be written for what its type parameters are bound to. -/
def closedUnder (bindings : TypeBindings) (d : Declaration) : Declaration :=
  { d with constructors := d.constructors.map (Constructor.substitute bindings) }

/-- A concrete class with a marker for an open target, which matches a closed interface. -/
structure DecoratesOpenly (d : Declaration) (t : TypeRef) (place : Int32) (interface : TypeRef)
    (bindings : TypeBindings) : Prop where
  concrete : d.isConcreteClass = true
  marked : .openDecoratorFor t place ∈ d.markers
  target_open : t.isOpen = true
  interface_closed : interface.isOpen = false
  binds : (d.ownTarget t).bindAgainst interface = some bindings

/-- The open decorator closed over an interface is planned as the same decorator written closed. -/
structure PlansAsWrittenClosed (d : Declaration) (t : TypeRef) (place : Int32)
    (interface : TypeRef) (bindings : TypeBindings) : Prop where
  found : ∀ c, (d.closedUnder bindings).decoratorConstruction? interface = some c →
    ∃ o ∈ d.openDecorators.successes, d.openDecorator t place = .ok o ∧
      ∃ x, o.closeOver interface = some x ∧ x.construction = c
  same : ∀ o x, d.openDecorator t place = .ok o → o.closeOver interface = some x →
    (d.closedUnder bindings).decoratorConstruction? interface = some x.construction

/-- Closing does not change which parameter takes the decorated instance, and makes none of the
    others one that the container can supply. -/
structure ClosesUniformly (d : Declaration) (own target : TypeRef) (bindings : TypeBindings) :
    Prop where
  inner : ∀ e ∈ d.effectiveConstructors,
    e.2.parameters.findIdx? (fun p => (p.type.substitute bindings).sameType target) =
      e.2.parameters.findIdx? (·.type.sameType own)
  others : ∀ e ∈ d.effectiveConstructors,
    ∀ p ∈ e.2.parameters.eraseP (·.type.sameType own),
      (p.type.substitute bindings).isResolvable = true → p.type.isResolvable = true

variable {d : Declaration} {bindings : TypeBindings} {own target : TypeRef}

/-! ## Choosing the constructor -/

theorem callableConstructors_closedUnder :
    (d.closedUnder bindings).callableConstructors =
      d.callableConstructors.map fun e => (e.1, e.2.substitute bindings) := by
  simp only [callableConstructors, closedUnder, List.zipIdx_map, List.map_map, List.filter_map]
  rfl

theorem effectiveConstructors_closedUnder :
    (d.closedUnder bindings).effectiveConstructors =
      d.effectiveConstructors.map fun e => (e.1, e.2.substitute bindings) := by
  unfold effectiveConstructors
  rw [callableConstructors_closedUnder]
  simp only [closedUnder, List.isEmpty_map]
  split <;> rfl

/-- What the container supplies stays as it is when the declaration is closed. -/
theorem canInject_closedUnder {p : Parameter}
    (hresolvable : (p.type.substitute bindings).isResolvable = true → p.type.isResolvable = true) :
    (d.closedUnder bindings).canInject (p.substitute bindings) = d.canInject p := by
  unfold canInject
  cases hp : p.type.isResolvable with
  | true =>
      -- Closed already
      have hsame := TypeRef.substitute_of_resolvable bindings hp
      simp only [Parameter.substitute, closedUnder, hsame, hp]
  | false =>
      have hstill : (p.type.substitute bindings).isResolvable = false :=
        Bool.eq_false_iff.mpr fun h => Bool.false_ne_true (hp.symm.trans (hresolvable h))
      simp only [Parameter.substitute, hstill, Bool.false_and]

/-- The arguments of a decorating constructor are closed by closing its parameters. -/
theorem decoratorArguments_closedUnder (ps : List Parameter)
    (hinner : ps.findIdx? (fun p => (p.type.substitute bindings).sameType target) =
      ps.findIdx? (·.type.sameType own))
    (hothers : ∀ p ∈ ps.eraseP (·.type.sameType own),
      (p.type.substitute bindings).isResolvable = true → p.type.isResolvable = true) :
    (d.closedUnder bindings).decoratorArguments target (ps.map (Parameter.substitute bindings)) =
      (d.decoratorArguments own ps).map (List.map (Argument.substitute bindings)) := by
  induction ps with
  | nil => rfl
  | cons p rest ih =>
      obtain ⟨hsame, hbehind⟩ := List.findIdx?_cons_eq_iff.mp hinner
      have htarget : (p.substitute bindings).type.sameType target = p.type.sameType own := hsame
      rw [List.map_cons, decoratorArguments, decoratorArguments, htarget]
      cases hown : p.type.sameType own with
      | true =>
          -- The decorated instance goes to this parameter on both sides
          simp only [List.eraseP_cons, hown, cond_true] at hothers
          have hrest : (rest.map (Parameter.substitute bindings)).all
              (d.closedUnder bindings).canInject = rest.all d.canInject := by
            rw [List.all_map, Bool.eq_iff_iff, List.all_eq_true, List.all_eq_true]
            refine forall₂_congr fun q hq => ?_
            rw [Function.comp_apply, canInject_closedUnder (hothers q hq)]
          rw [hrest, if_pos rfl, if_pos rfl]
          split
          · rw [Option.map_some, List.map_cons, List.map_map, List.map_map]
            rfl
          · rfl
      | false =>
          -- The container supplies this parameter, and the search goes on behind it
          simp only [List.eraseP_cons, hown, cond_false, List.mem_cons, forall_eq_or_imp]
            at hothers
          rw [if_neg Bool.false_ne_true, if_neg Bool.false_ne_true,
            canInject_closedUnder hothers.1, ih (hbehind hown) hothers.2]
          split
          · rw [Option.map_map, Option.map_map]
            rfl
          · rfl

/-- A decorator that closes uniformly is constructed, written closed, by the closed construction of
    the open decorator. -/
theorem decoratorConstruction?_closedUnder (h : d.ClosesUniformly own target bindings) :
    (d.closedUnder bindings).decoratorConstruction? target =
      (d.decoratorConstruction? own).map (Construction.substitute bindings) := by
  have harguments : ∀ e ∈ d.effectiveConstructors,
      (d.closedUnder bindings).decoratorArguments target (e.2.substitute bindings).parameters =
        (d.decoratorArguments own e.2.parameters).map (List.map (Argument.substitute bindings)) :=
    fun e he => decoratorArguments_closedUnder _ (h.inner e he) (h.others e he)
  -- The same constructors qualify
  have hcandidates : ((d.closedUnder bindings).effectiveConstructors.filter fun e =>
        ((d.closedUnder bindings).decoratorArguments target e.2.parameters).isSome) =
      (d.effectiveConstructors.filter fun e =>
        (d.decoratorArguments own e.2.parameters).isSome).map
          fun e => (e.1, e.2.substitute bindings) := by
    rw [effectiveConstructors_closedUnder, List.filter_map]
    congr 1
    refine List.filter_congr fun e he => ?_
    rw [Function.comp_apply, harguments e he, Option.isSome_map]
  -- The choice among them does not look at the types
  have hwidest := widest_map (fun e : Nat × Constructor => e.2.parameters)
    (fun e : Nat × Constructor => e.2.parameters) (fun e => (e.1, e.2.substitute bindings))
    fun e => List.length_map _
  unfold decoratorConstruction?
  dsimp only
  rw [hcandidates, hwidest]
  cases hbest : widest (fun e : Nat × Constructor => e.2.parameters)
      (d.effectiveConstructors.filter fun e =>
        (d.decoratorArguments own e.2.parameters).isSome) with
  | none => rfl
  | some e =>
      have hmem : e ∈ d.effectiveConstructors :=
        List.mem_of_mem_filter (mem_of_widest_eq_some hbest)
      simp only [Option.map_some, Option.bind_some, harguments e hmem, Option.map_map]
      rfl

/-! ## The open decorator, closed -/

/-- An open decorator is found for an open target if it can be constructed in its own type
    parameters. -/
theorem openDecorator_eq_ok_iff {t : TypeRef} {place : Int32} {o : OpenDecorator}
    (hopen : t.isOpen = true) :
    d.openDecorator t place = .ok o ↔
      ∃ c, d.decoratorConstruction? (d.ownTarget t) = some c ∧
        o = ⟨d.toRef, d.ownTarget t, place, d.moduleName, c⟩ := by
  unfold openDecorator
  rw [if_pos hopen]
  dsimp only
  cases d.decoratorConstruction? (d.ownTarget t) with
  | none => simp
  | some c => simp [eq_comm]

theorem openDecorator_mem_openDecorators {t : TypeRef} {place : Int32}
    (hmarker : .openDecoratorFor t place ∈ d.markers) :
    d.openDecorator t place ∈ d.openDecorators := by
  refine List.mem_map.mpr ⟨(t, place), ?_, rfl⟩
  exact List.mem_filterMap.mpr ⟨_, hmarker, rfl⟩

end Declaration

/-- Closing an open decorator closes its construction. -/
theorem OpenDecorator.closeOver_eq_some (o : OpenDecorator) {interface : TypeRef}
    {bindings : TypeBindings} (hclosed : interface.isOpen = false)
    (hbind : o.target.bindAgainst interface = some bindings) :
    o.closeOver interface =
      some ⟨o.type.substitute bindings, interface, o.order, o.moduleName,
        o.construction.substitute bindings, true⟩ := by
  rw [closeOver, hclosed, if_neg Bool.false_ne_true, hbind, Option.map_some]
  rfl

/-- An open decorator that closes uniformly is planned for an interface as the same decorator
    written closed. -/
theorem plansAsWrittenClosed_of_closesUniformly (d : Declaration) (t : TypeRef) (place : Int32)
    (interface : TypeRef) (bindings : TypeBindings)
    (hdecorates : d.DecoratesOpenly t place interface bindings)
    (huniform : d.ClosesUniformly (d.ownTarget t) interface bindings) :
    d.PlansAsWrittenClosed t place interface bindings := by
  have hcommute := Declaration.decoratorConstruction?_closedUnder huniform
  refine ⟨?_, ?_⟩
  · -- From the decorator written closed to the open one
    intro c hc
    rw [hcommute] at hc
    obtain ⟨chosen, hchosen, rfl⟩ := Option.map_eq_some_iff.mp hc
    let o : OpenDecorator := ⟨d.toRef, d.ownTarget t, place, d.moduleName, chosen⟩
    have hfound : d.openDecorator t place = .ok o :=
      (Declaration.openDecorator_eq_ok_iff hdecorates.target_open).mpr ⟨chosen, hchosen, rfl⟩
    have hmem := Declaration.openDecorator_mem_openDecorators hdecorates.marked
    have hclose := o.closeOver_eq_some hdecorates.interface_closed hdecorates.binds
    refine ⟨o, ?_, hfound, _, hclose, rfl⟩
    rwa [List.mem_successes, ← hfound]
  · -- From the open decorator to the one written closed
    intro o x hfound hx
    obtain ⟨chosen, hchosen, rfl⟩ :=
      (Declaration.openDecorator_eq_ok_iff hdecorates.target_open).mp hfound
    rw [OpenDecorator.closeOver_eq_some _ hdecorates.interface_closed hdecorates.binds,
      Option.some.injEq] at hx
    rw [hcommute, hchosen, ← hx]
    rfl

/-- The interface of the handlers of a message. -/
def TypeRef.handlerOf (message : TypeRef) : TypeRef :=
  (ofInterface "App.IHandler").withArg message

/-- A decorator of the handlers of every message. -/
def Declaration.audit (parameters : List Parameter) : Declaration :=
  (((ofClass "App" "App.Audit").withTypeParameter "T").withConstructor { parameters }).withMarker
    (.openDecoratorFor (.handlerOf (.parameter "T")) 0)

/-- A decorator of the handlers of every message that also asks for a clock. -/
def Declaration.clockedAudit : Declaration :=
  .audit [⟨"inner", .handlerOf (.parameter "T"), none⟩, ⟨"clock", .ofInterface "App.IClock", none⟩]

/-- A decorator of the handlers of every message that also asks for a log of the message. -/
def Declaration.loggedAudit : Declaration :=
  .audit [⟨"inner", .handlerOf (.parameter "T"), none⟩,
    ⟨"log", (TypeRef.ofInterface "App.ILog").withArg (.parameter "T"), none⟩]

/-- A decorator of the handlers of every message that also asks for the handler of orders. -/
def Declaration.orderedAudit : Declaration :=
  .audit [⟨"orders", .handlerOf (.ofClass "App.Order"), none⟩,
    ⟨"inner", .handlerOf (.parameter "T"), none⟩]

/-- What the handler of orders makes of the type parameter. -/
def TypeBindings.order : TypeBindings := [("T", .ofClass "App.Order")]

theorem clockedAudit_plansAsWrittenClosed :
    Declaration.clockedAudit.DecoratesOpenly (.handlerOf (.parameter "T")) 0
        (.handlerOf (.ofClass "App.Order")) .order ∧
      Declaration.clockedAudit.PlansAsWrittenClosed (.handlerOf (.parameter "T")) 0
        (.handlerOf (.ofClass "App.Order")) .order := by
  have hdecorates : Declaration.clockedAudit.DecoratesOpenly (.handlerOf (.parameter "T")) 0
      (.handlerOf (.ofClass "App.Order")) .order :=
    ⟨by decide, by decide, by decide, by decide, by decide⟩
  exact ⟨hdecorates, plansAsWrittenClosed_of_closesUniformly _ _ _ _ _ hdecorates
    ⟨by decide, by decide⟩⟩

/-- Written closed, the one decorator can be constructed where the open one is not even found; the
    other wraps the handler that the open one asks for as a service. -/
theorem audits_not_plansAsWrittenClosed :
    (Declaration.loggedAudit.DecoratesOpenly (.handlerOf (.parameter "T")) 0
        (.handlerOf (.ofClass "App.Order")) .order ∧
      ¬ Declaration.loggedAudit.PlansAsWrittenClosed (.handlerOf (.parameter "T")) 0
        (.handlerOf (.ofClass "App.Order")) .order) ∧
    Declaration.orderedAudit.DecoratesOpenly (.handlerOf (.parameter "T")) 0
        (.handlerOf (.ofClass "App.Order")) .order ∧
      ¬ Declaration.orderedAudit.PlansAsWrittenClosed (.handlerOf (.parameter "T")) 0
        (.handlerOf (.ofClass "App.Order")) .order := by
  refine ⟨⟨⟨by decide, by decide, by decide, by decide, by decide⟩, fun h => ?_⟩,
    ⟨by decide, by decide, by decide, by decide, by decide⟩, fun h => ?_⟩
  · obtain ⟨c, hc⟩ := Option.isSome_iff_exists.mp
      (show ((Declaration.loggedAudit.closedUnder .order).decoratorConstruction?
        (.handlerOf (.ofClass "App.Order"))).isSome = true by decide)
    obtain ⟨o, ho, -⟩ := h.found c hc
    rw [show Declaration.loggedAudit.openDecorators.successes = [] by decide] at ho
    cases ho
  · exact absurd (h.same _ _ rfl rfl) (by decide)

end Wiring
