/-
  Wiring.Proofs.Decoration.Closedness

  When nothing open reaches the application of decorators. A marker may name an open target, a
  generic type may decorate a closed one, and the target of an open decorator may leave out some of
  its type parameters: in each case something open stands in a chain. The main statement is that
  nothing else lets it in.
-/

import Wiring.Proofs.Construction.Arguments
import Wiring.Proofs.Decoration.Applied
import Wiring.Proofs.TypeRef.Matched

namespace Wiring

/-- No type parameter occurs in the chain. -/
structure Chain.IsClosed (c : Chain) : Prop where
  target : c.target.isOpen = false
  decorators : ∀ l ∈ c.layers, l.decorator.isOpen = false
  arguments : ∀ l ∈ c.layers, ∀ a ∈ l.construction.arguments, a.type.isOpen = false

/-- No type parameter occurs in the decorator. -/
structure Decorator.IsClosed (x : Decorator) : Prop where
  target : x.target.isOpen = false
  type : x.type.isOpen = false
  arguments : ∀ a ∈ x.construction.arguments, a.type.isOpen = false

namespace Declaration

/-- The constructors mention no type parameters but those of the type; what decorates a target that
    a marker names is not generic, nor is the target open; and what decorates an open target
    mentions every type parameter in it. -/
structure ClosesDecorators (d : Declaration) : Prop where
  inScope : ∀ e ∈ d.effectiveConstructors, ∀ p ∈ e.2.parameters,
    ∀ name ∈ p.type.freeParameters, name ∈ d.typeParameters
  declared : ∀ target place, .decoratorFor target place ∈ d.markers →
    d.typeParameters = [] ∧ target.isOpen = false
  mentioned : ∀ t place, .openDecoratorFor t place ∈ d.markers → t.isOpen = true →
    ∀ name ∈ d.typeParameters, name ∈ TypeRef.freeParametersAll (d.ownTarget t).args

/-! ## What a declaration applies -/

/-- A declared type mentions its own type parameters. -/
theorem freeParameters_toRef (d : Declaration) : d.toRef.freeParameters = d.typeParameters := by
  have hkind : d.toRef.kind ≠ .typeParameter := by
    unfold toRef
    cases d.kind <;> exact nofun
  rw [TypeRef.freeParameters_of_kind_ne hkind]
  unfold toRef
  dsimp only
  induction d.typeParameters with
  | nil => rfl
  | cons name rest ih =>
      rw [List.map_cons, TypeRef.freeParametersAll, ih]
      rfl

variable {d : Declaration} {x : Decorator}

/-- Matched with a closed interface, an open target binds all that the type and its constructors
    mention. -/
theorem ClosesDecorators.closes (h : d.ClosesDecorators) {t interface : TypeRef} {place : Int32}
    {bindings : TypeBindings} (hmarker : .openDecoratorFor t place ∈ d.markers)
    (hopen : t.isOpen = true) (hclosed : interface.isOpen = false)
    (hbind : (d.ownTarget t).bindAgainst interface = some bindings) :
    bindings.Closes d.typeParameters :=
  (TypeRef.closes_of_bindAgainst_eq_some hbind hclosed).mono (h.mentioned t place hmarker hopen)

theorem Applies.isClosed (h : d.ClosesDecorators) (happlies : d.Applies x) : x.IsClosed := by
  cases happlies with
  | declared marked chosen =>
      obtain ⟨hplain, htarget⟩ := h.declared _ _ marked
      refine ⟨htarget, ?_, fun a ha => ?_⟩
      · exact (TypeRef.freeParameters_eq_nil_iff _).mp (d.freeParameters_toRef.trans hplain)
      · -- The constructors have no type parameter to mention
        obtain ⟨e, he, p, hp, htype⟩ :=
          exists_parameter_of_decoratorConstruction?_eq_some chosen a ha
        have hscoped := h.inScope e he p hp
        rw [hplain] at hscoped
        rw [htype]
        exact (TypeRef.freeParameters_eq_nil_iff _).mp
          (List.eq_nil_iff_forall_not_mem.mpr fun name hname => nomatch hscoped name hname)
  | @synthesized t interface place c bindings marked target_open chosen interface_closed binds =>
      have hcloses := h.closes marked target_open interface_closed binds
      refine ⟨interface_closed, ?_, fun a ha => ?_⟩
      · exact TypeRef.isOpen_substitute_of_closes bindings _ (d.freeParameters_toRef ▸ hcloses)
      · obtain ⟨b, hb, rfl⟩ := List.mem_map.mp ha
        obtain ⟨e, he, p, hp, htype⟩ :=
          exists_parameter_of_decoratorConstruction?_eq_some chosen b hb
        refine TypeRef.isOpen_substitute_of_closes bindings _ (hcloses.mono ?_)
        rw [htype]
        exact h.inScope e he p hp

end Declaration

/-! ## Chains -/

/-- If all decorators are closed that are applied, so are the chains. -/
theorem Survey.isClosed_of_mem_chains {s : Survey} {c : Chain}
    (h : ∀ x ∈ s.allFindings.closedDecorators, x.IsClosed) (hc : c ∈ s.plan.chains) :
    c.IsClosed := by
  obtain ⟨⟨x, hx, htarget⟩, hlayers⟩ := exists_of_mem_chains hc
  refine ⟨?_, fun l hl => ?_, fun l hl => ?_⟩
  · rw [htarget]
    exact (h x hx).target
  · obtain ⟨y, hy, -, position, rfl⟩ := hlayers l hl
    exact (h y hy).type
  · obtain ⟨y, hy, -, position, rfl⟩ := hlayers l hl
    exact (h y hy).arguments

/-- Nothing open stands in the chains of a plan if every type that plays the role of a decorator
    closes its decorators. -/
theorem plan_chains_closed (g : Graph) (o : Options) (hvalid : g.validate = .ok ())
    (hcloses : ∀ d ∈ g.scannedTypes,
      (Survey.mk g o).plays d .decorator = true ∨ (Survey.mk g o).plays d .openDecorator = true →
        d.ClosesDecorators) :
    ∃ p, g.plan o = .ok p ∧ ∀ c ∈ p.chains, c.IsClosed := by
  refine ⟨_, Graph.plan_eq_ok hvalid o, fun c hc => Survey.isClosed_of_mem_chains ?_ hc⟩
  intro x hx
  obtain ⟨d, hd, hplays, happlies⟩ := Survey.exists_applies_of_mem_closedDecorators hx
  exact happlies.isClosed (hcloses d hd hplays)

/-- A build with a handler of orders and one more type. -/
def Graph.handlerShop (d : Declaration) : Graph where
  current := "App"
  modules := [{
    name := "App"
    types := [
      (Declaration.ofClass "App" "App.OrderHandler").implementing
        (.handlerOf (.ofClass "App.Order")),
      d] }]

/-- A generic type with a constructor that takes a handler, and one marker. -/
def Declaration.handlerWrapper (inner : TypeRef) (marker : Marker) : Declaration :=
  (((ofClass "App" "App.Wrapper").withTypeParameter "T").withConstructor
    { parameters := [⟨"inner", inner, none⟩] }).withMarker marker

theorem clockedAudit_closesDecorators : Declaration.clockedAudit.ClosesDecorators := by
  refine ⟨by decide, fun target place h => ?_, fun t place h _ => ?_⟩
  · cases h with
    | tail _ h => cases h
  · cases h with
    | head => decide
    | tail _ h => cases h

theorem clockedAudit_chains_closed :
    (Graph.handlerShop .clockedAudit).validate = .ok () ∧
      (∀ d ∈ (Graph.handlerShop .clockedAudit).scannedTypes,
        (Survey.mk (Graph.handlerShop .clockedAudit) {}).plays d .decorator = true ∨
          (Survey.mk (Graph.handlerShop .clockedAudit) {}).plays d .openDecorator = true →
            d.ClosesDecorators) ∧
      ∃ p, (Graph.handlerShop .clockedAudit).plan {} = .ok p ∧ ∀ c ∈ p.chains, c.IsClosed := by
  have hvalid : (Graph.handlerShop .clockedAudit).validate = .ok () := by decide
  have hcloses : ∀ d ∈ (Graph.handlerShop .clockedAudit).scannedTypes,
      (Survey.mk (Graph.handlerShop .clockedAudit) {}).plays d .decorator = true ∨
        (Survey.mk (Graph.handlerShop .clockedAudit) {}).plays d .openDecorator = true →
          d.ClosesDecorators := by
    intro d hd hplays
    rcases List.mem_pair.mp hd with rfl | rfl
    · -- The handler decorates nothing
      exact absurd hplays (by decide)
    · exact clockedAudit_closesDecorators
  exact ⟨hvalid, hcloses, plan_chains_closed _ {} hvalid hcloses⟩

/-- An open target, a generic decorator of a closed target, and an open decorator with a type
    parameter that its target leaves out: each puts something open into a chain. -/
theorem handlerShops_not_closed :
    ((Graph.handlerShop (.handlerWrapper (.handlerOf (.parameter "T"))
        (.decoratorFor (.handlerOf (.parameter "T")) 0))).validate = .ok () ∧
      ∃ p, (Graph.handlerShop (.handlerWrapper (.handlerOf (.parameter "T"))
          (.decoratorFor (.handlerOf (.parameter "T")) 0))).plan {} = .ok p ∧
        ∃ c ∈ p.chains, c.target.isOpen = true) ∧
    ((Graph.handlerShop (.handlerWrapper (.handlerOf (.ofClass "App.Order"))
        (.decoratorFor (.handlerOf (.ofClass "App.Order")) 0))).validate = .ok () ∧
      ∃ p, (Graph.handlerShop (.handlerWrapper (.handlerOf (.ofClass "App.Order"))
          (.decoratorFor (.handlerOf (.ofClass "App.Order")) 0))).plan {} = .ok p ∧
        ∃ c ∈ p.chains, ∃ l ∈ c.layers, l.decorator.isOpen = true) ∧
    ((Graph.handlerShop (Declaration.clockedAudit.withTypeParameter "U")).validate = .ok () ∧
      ∃ p, (Graph.handlerShop (Declaration.clockedAudit.withTypeParameter "U")).plan {} = .ok p ∧
        ∃ c ∈ p.chains, ∃ l ∈ c.layers, l.decorator.isOpen = true) := by
  refine ⟨⟨by decide, _, Graph.plan_eq_ok (by decide) {}, ?_⟩,
    ⟨by decide, _, Graph.plan_eq_ok (by decide) {}, ?_⟩,
    by decide, _, Graph.plan_eq_ok (by decide) {}, ?_⟩
  · rw [← List.any_eq_true]
    decide +kernel
  · simp only [← List.any_eq_true]
    decide +kernel
  · simp only [← List.any_eq_true]
    decide +kernel

end Wiring
