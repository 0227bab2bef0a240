/-
  Wiring.Proofs.Construction.Choice

  How good the chosen constructor is. A service, a factory and a decorator each ask something else
  of a constructor, and supply its parameters differently. Beyond that all three choose alike: of
  the constructors that generated code may call and that qualify, the first one with the most
  parameters, and none only where none qualifies.
-/

import Wiring.Proofs.Construction.Arguments

namespace Wiring

/-! ## What is on offer -/

namespace Declaration

/-- Generated code may call the constructor at the place: a declared one that is public or
    internal, or the implicit one of a type that declares none. -/
def Offers (d : Declaration) (place : Nat) (c : Constructor) : Prop :=
  (d.constructors = [] ∧ place = 0 ∧ c = ⟨.anyone, []⟩) ∨
    (d.constructors[place]? = some c ∧ (c.accessibility = .anyone ∨ c.accessibility = .sameModule))

/-- Of the constructors on offer that qualify, none has more parameters than the one at the place,
    and none that has as many is declared earlier. -/
structure Prefers (d : Declaration) (Qualifies : Constructor → Prop) (place : Nat)
    (c : Constructor) : Prop where
  offered : d.Offers place c
  qualifies : Qualifies c
  widest : ∀ other e, d.Offers other e → Qualifies e → e.parameters.length ≤ c.parameters.length
  earliest : ∀ other e, d.Offers other e → Qualifies e →
    e.parameters.length = c.parameters.length → place ≤ other

end Declaration

/-- The argument has the name and the type of the parameter. -/
def Argument.Matches (a : Argument) (p : Parameter) : Prop := a.name = p.name ∧ a.type = p.type

/-- There is one argument for each parameter, in the same order; the decorated instance is passed at
    the place given, and nowhere else. -/
structure Construction.Fills (k : Construction) (parameters : List Parameter)
    (inner : Option Nat) : Prop where
  matched : List.Forall₂ Argument.Matches k.arguments parameters
  decorated : ∀ place, (∃ a, k.arguments[place]? = some a ∧ a.source = .inner) ↔
    inner = some place

/-- Nothing is chosen exactly if no constructor on offer qualifies; what is chosen is the best that
    qualifies, and its parameters are filled. -/
structure Declaration.Chooses (d : Declaration) (Qualifies : Constructor → Prop)
    (inner : Constructor → Option Nat) (choice : Option Construction) : Prop where
  eq_none_iff : choice = none ↔ ∀ place c, d.Offers place c → ¬ Qualifies c
  chosen : ∀ k, choice = some k →
    ∃ c, d.Prefers Qualifies k.index c ∧ k.Fills c.parameters (inner c)

/-- The place of the first parameter of the target's type. -/
def Constructor.innerPlace (target : TypeRef) (c : Constructor) : Option Nat :=
  c.parameters.findIdx? (·.type.sameType target)

/-- A parameter takes what is decorated, and the container supplies all others. -/
def Declaration.CanDecorate (d : Declaration) (target : TypeRef) (c : Constructor) : Prop :=
  ∃ place, c.innerPlace target = some place ∧
    ∀ p ∈ c.parameters.eraseIdx place, p.IsSuppliedTo d.name

namespace Declaration

variable {d : Declaration} {Qualifies : Constructor → Prop} {inner : Constructor → Option Nat}
  {choice : Option Construction}

/-! ## The best on offer -/

theorem mem_effectiveConstructors_iff {e : Nat × Constructor} :
    e ∈ d.effectiveConstructors ↔ d.Offers e.1 e.2 := by
  obtain ⟨place, c⟩ := e
  unfold effectiveConstructors Offers
  split
  · rename_i hempty
    rw [List.isEmpty_iff] at hempty
    simp [hempty]
  · rename_i hdeclared
    rw [List.isEmpty_iff] at hdeclared
    rw [mem_callableConstructors_iff, Constructor.isCallable, isWithinModule_iff]
    simp [hdeclared]

/-- The constructors on offer are listed in the order of their places. -/
theorem pairwise_effectiveConstructors (d : Declaration) :
    d.effectiveConstructors.Pairwise fun a b => a.1 < b.1 := by
  unfold effectiveConstructors
  split
  · exact List.pairwise_singleton ..
  · have hplaces : (d.constructors.zipIdx.map (·.2)).Pairwise (· < ·) := by
      rw [List.zipIdx_map_snd]
      exact List.pairwise_lt_range'
    refine List.Pairwise.filter _ (List.pairwise_map.mpr ?_)
    exact List.pairwise_map.mp hplaces

/-- The widest of the constructors on offer that pass a test is the best that passes it. -/
theorem prefers_of_widest {qualifies : Constructor → Bool} {e : Nat × Constructor}
    (hqualifies : ∀ c, qualifies c = true ↔ Qualifies c)
    (h : widest (·.2.parameters) (d.effectiveConstructors.filter (qualifies ·.2)) = some e) :
    d.Prefers Qualifies e.1 e.2 := by
  have hmem : ∀ place c, d.Offers place c → Qualifies c →
      (place, c) ∈ d.effectiveConstructors.filter (qualifies ·.2) := by
    intro place c hoffered hc
    exact List.mem_filter.mpr ⟨mem_effectiveConstructors_iff.mpr hoffered, (hqualifies c).mpr hc⟩
  have hordered := d.pairwise_effectiveConstructors.filter (qualifies ·.2)
  obtain ⟨hoffered, hpasses⟩ := List.mem_filter.mp (mem_of_widest_eq_some h)
  refine ⟨mem_effectiveConstructors_iff.mp hoffered, (hqualifies e.2).mp hpasses, ?_, ?_⟩
  · intro place c hc hq
    exact (le_of_widest_eq_some hordered h (hmem place c hc hq)).1
  · intro place c hc hq
    exact (le_of_widest_eq_some hordered h (hmem place c hc hq)).2

/-- The widest of the constructors that pass a test is chosen well, if its parameters are
    filled. -/
theorem chooses_of_widest (qualifies : Constructor → Bool) {make : Nat × Constructor → Construction}
    (hqualifies : ∀ c, qualifies c = true ↔ Qualifies c)
    (hchoice : choice = (widest (·.2.parameters)
      (d.effectiveConstructors.filter (qualifies ·.2))).map make)
    (hmake : ∀ e : Nat × Constructor, Qualifies e.2 →
      (make e).index = e.1 ∧ (make e).Fills e.2.parameters (inner e.2)) :
    d.Chooses Qualifies inner choice := by
  subst hchoice
  refine ⟨?_, ?_⟩
  · rw [Option.map_eq_none_iff, widest_eq_none_iff, List.filter_eq_nil_iff]
    simp only [mem_effectiveConstructors_iff, hqualifies, Prod.forall]
  · intro k hk
    obtain ⟨e, hbest, rfl⟩ := Option.map_eq_some_iff.mp hk
    have hprefers := prefers_of_widest hqualifies hbest
    obtain ⟨hindex, hfills⟩ := hmake e hprefers.qualifies
    exact ⟨e.2, hindex ▸ hprefers, hfills⟩

end Declaration

/-! ## Filling the parameters -/

namespace Construction

variable {index : Nat} {make : Parameter → Argument} {ps before after : List Parameter}
  {inner : Parameter}

/-- Arguments that are made of the parameters one by one match them. -/
theorem forall₂_matches_map (hmake : ∀ p, (make p).Matches p) :
    List.Forall₂ Argument.Matches (ps.map make) ps := by
  rw [List.forall₂_map_left_iff, List.forall₂_same]
  intro p _
  exact hmake p

/-- No argument that is made of a parameter passes the decorated instance. -/
theorem source_ne_inner_of_getElem? (hmake : ∀ p, (make p).source ≠ .inner) {place : Nat}
    {a : Argument} (ha : (ps.map make)[place]? = some a) : a.source ≠ .inner := by
  obtain ⟨p, -, rfl⟩ := List.mem_map.mp (List.mem_of_getElem? ha)
  exact hmake p

/-- All parameters may be filled without the decorated instance. -/
theorem fills_map (hmatches : ∀ p, (make p).Matches p) (hmake : ∀ p, (make p).source ≠ .inner) :
    Fills ⟨index, ps.map make⟩ ps none := by
  refine ⟨forall₂_matches_map hmatches, fun place => iff_of_false ?_ nofun⟩
  rintro ⟨a, ha, hinner⟩
  exact source_ne_inner_of_getElem? hmake ha hinner

/-- One parameter may take the decorated instance, between others that the container supplies. -/
theorem fills_inner :
    Fills ⟨index, before.map .injected ++ .fromInner inner :: after.map .injected⟩
      (before ++ inner :: after) (some before.length) := by
  have hinjected : ∀ ps : List Parameter, List.Forall₂ Argument.Matches (ps.map .injected) ps :=
    fun ps => forall₂_matches_map fun p => ⟨rfl, rfl⟩
  refine ⟨List.rel_append (hinjected before) (.cons ⟨rfl, rfl⟩ (hinjected after)), fun place => ?_⟩
  rw [Option.some.injEq, List.getElem?_append, List.length_map]
  split
  · -- In front of the decorated instance
    rename_i hbefore
    refine iff_of_false ?_ (by omega)
    rintro ⟨a, ha, hinner⟩
    exact source_ne_inner_of_getElem? Argument.injected_source_ne_inner ha hinner
  · rename_i hnot
    cases hoffset : place - before.length with
    | zero =>
        refine iff_of_true ⟨_, rfl, rfl⟩ (by omega)
    | succ offset =>
        -- Behind the decorated instance
        refine iff_of_false ?_ (by omega)
        rw [List.getElem?_cons_succ]
        rintro ⟨a, ha, hinner⟩
        exact source_ne_inner_of_getElem? Argument.injected_source_ne_inner ha hinner

end Construction

/-! ## Three choices -/

namespace Declaration

variable {d : Declaration} {target : TypeRef} {c : Constructor} {before after : List Parameter}
  {inner : Parameter}

theorem isInjectable_iff :
    d.isInjectable c = true ↔ ∀ p ∈ c.parameters, p.IsSuppliedTo d.name := by
  simp only [isInjectable, List.all_eq_true, canInject_iff]

/-- The decorated instance is passed at the place of the first parameter of the target's type. -/
theorem innerPlace_eq_some (hsplit : c.parameters = before ++ inner :: after)
    (hbefore : ∀ p ∈ before, p.type.sameType target = false)
    (hinner : inner.type.sameType target = true) :
    c.innerPlace target = some before.length := by
  have hnone : before.findIdx? (·.type.sameType target) = none :=
    List.findIdx?_eq_none_iff.mpr hbefore
  rw [Constructor.innerPlace, hsplit, List.findIdx?_append, hnone, List.findIdx?_cons, hinner]
  simp

/-- There are arguments for a decorator exactly where the constructor can decorate. -/
theorem isSome_decoratorArguments_iff :
    (d.decoratorArguments target c.parameters).isSome = true ↔ d.CanDecorate target c := by
  rw [Option.isSome_iff_exists]
  simp only [decoratorArguments_eq_some_iff]
  refine ⟨?_, ?_⟩
  · rintro ⟨_, before, inner, after, hsplit, hbefore, hinner, hsupplied, -⟩
    refine ⟨before.length, innerPlace_eq_some hsplit hbefore hinner, ?_⟩
    rwa [hsplit, List.eraseIdx_append_of_length_le le_rfl, Nat.sub_self, List.eraseIdx_cons_zero]
  · rintro ⟨place, hplace, hsupplied⟩
    obtain ⟨hlt, hinner, hbefore⟩ := List.findIdx?_eq_some_iff_getElem.mp hplace
    rw [List.eraseIdx_eq_take_drop_succ] at hsupplied
    refine ⟨_, c.parameters.take place, c.parameters[place], c.parameters.drop (place + 1), ?_, ?_,
      hinner, hsupplied, rfl⟩
    · rw [List.getElem_cons_drop hlt, List.take_append_drop]
    · intro p hp
      obtain ⟨i, hi, rfl⟩ := List.mem_take_iff_getElem.mp hp
      simpa using hbefore i (by omega)

/-- The arguments of a decorator fill the parameters of a constructor that can decorate. -/
theorem fills_decoratorArguments {index : Nat} (h : d.CanDecorate target c) :
    Construction.Fills ⟨index, (d.decoratorArguments target c.parameters).getD []⟩ c.parameters
      (c.innerPlace target) := by
  obtain ⟨arguments, harguments⟩ :=
    Option.isSome_iff_exists.mp (isSome_decoratorArguments_iff.mpr h)
  obtain ⟨before, inner, after, hsplit, hbefore, hinner, -, rfl⟩ :=
    decoratorArguments_eq_some_iff.mp harguments
  rw [harguments, Option.getD_some, innerPlace_eq_some hsplit hbefore hinner, hsplit]
  exact Construction.fills_inner

/-- The construction of a decorator is made of the widest constructor that can decorate. -/
theorem decoratorConstruction?_eq_map (d : Declaration) (target : TypeRef) :
    d.decoratorConstruction? target =
      (widest (·.2.parameters) (d.effectiveConstructors.filter fun e =>
        (d.decoratorArguments target e.2.parameters).isSome)).map fun e =>
          ⟨e.1, (d.decoratorArguments target e.2.parameters).getD []⟩ := by
  unfold decoratorConstruction?
  dsimp only
  cases hbest : widest (·.2.parameters) (d.effectiveConstructors.filter fun e =>
      (d.decoratorArguments target e.2.parameters).isSome) with
  | none => rfl
  | some e =>
      have hsome := (List.mem_filter.mp (mem_of_widest_eq_some hbest)).2
      obtain ⟨arguments, harguments⟩ := Option.isSome_iff_exists.mp hsome
      rw [Option.bind_some, Option.map_some, harguments]
      rfl

end Declaration

/-- Whatever a declaration is constructed for, the first constructor with the most parameters is
    chosen of those that qualify, and there is a choice wherever one qualifies. -/
theorem constructions_choose_best (d : Declaration) :
    d.Chooses (fun c => ∀ p ∈ c.parameters, p.IsSuppliedTo d.name) (fun _ => none)
        d.construction? ∧
      d.Chooses (fun _ => True) (fun _ => none) d.factoryConstruction? ∧
      ∀ target, d.Chooses (d.CanDecorate target) (·.innerPlace target)
        (d.decoratorConstruction? target) := by
  refine ⟨?_, ?_, fun target => ?_⟩
  · -- A service: the container supplies every parameter
    refine Declaration.chooses_of_widest d.isInjectable (fun _ => Declaration.isInjectable_iff)
      rfl ?_
    intro e _
    exact ⟨rfl, Construction.fills_map (fun p => ⟨rfl, rfl⟩) Argument.injected_source_ne_inner⟩
  · -- A factory: every constructor qualifies
    have hall : d.effectiveConstructors = d.effectiveConstructors.filter fun _ => true :=
      (List.filter_eq_self.mpr fun _ _ => rfl).symm
    have hmake : ∀ p : Parameter,
        let a := if d.canInject p then Argument.injected p else Argument.fromCaller p
        a.Matches p ∧ a.source ≠ .inner := by
      intro p
      dsimp only
      split
      · exact ⟨⟨rfl, rfl⟩, Argument.injected_source_ne_inner p⟩
      · exact ⟨⟨rfl, rfl⟩, nofun⟩
    refine Declaration.chooses_of_widest (fun _ => true) (fun c => iff_of_true rfl trivial)
      (congrArg (fun entries => (widest _ entries).map _) hall) ?_
    intro e _
    exact ⟨rfl, Construction.fills_map (fun p => (hmake p).1) fun p => (hmake p).2⟩
  · -- A decorator: one parameter takes the decorated instance
    refine Declaration.chooses_of_widest _ (fun c => Declaration.isSome_decoratorArguments_iff)
      (d.decoratorConstruction?_eq_map target) ?_
    intro e hdecorates
    exact ⟨rfl, Declaration.fills_decoratorArguments hdecorates⟩

/-- A mailer that wraps mailers. Its widest constructor is private, the next one asks for a number,
    and two are left that differ in the order of their parameters. -/
def Declaration.wrappingMailer : Declaration :=
  let inner : Parameter := ⟨"inner", .ofInterface "App.IMailer", none⟩
  let log : Parameter := ⟨"log", .ofInterface "App.ILog", some "audit"⟩
  let retries : Parameter := ⟨"retries", .ofPrimitive "int", none⟩
  { ofClass "App" "App.Mailer" with
    constructors := [⟨.owner, [inner, log, retries, log]⟩, ⟨.anyone, [inner, log, retries]⟩,
      ⟨.sameModule, [log, inner]⟩, ⟨.anyone, [inner, log]⟩] }

/-- The number rules the second constructor out, except in a factory; of the last two the first is
    chosen, where the decorated instance is the second argument. -/
theorem wrappingMailer_chooses_best :
    Declaration.wrappingMailer.Chooses
        (Declaration.wrappingMailer.CanDecorate (.ofInterface "App.IMailer"))
        (·.innerPlace (.ofInterface "App.IMailer"))
        (Declaration.wrappingMailer.decoratorConstruction? (.ofInterface "App.IMailer")) ∧
      Declaration.wrappingMailer.decoratorConstruction? (.ofInterface "App.IMailer") =
        some ⟨2, [⟨"log", .ofInterface "App.ILog", .keyed "audit"⟩,
          ⟨"inner", .ofInterface "App.IMailer", .inner⟩]⟩ ∧
      Declaration.wrappingMailer.construction?.map (·.index) = some 2 ∧
      Declaration.wrappingMailer.factoryConstruction?.map (·.index) = some 1 := by
  obtain ⟨-, -, hdecorator⟩ := constructions_choose_best .wrappingMailer
  exact ⟨hdecorator (.ofInterface "App.IMailer"), by decide, by decide, by decide⟩

end Wiring
