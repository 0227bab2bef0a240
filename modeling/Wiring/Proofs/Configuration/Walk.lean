/-
  Wiring.Proofs.Configuration.Walk

  Going through the properties of a configuration type and of the classes nested in it, with one
  list of the types that are being bound: a class is put on it before its properties are gone
  through, and taken off it behind them. The walk comes to an end, however the types refer to each
  other, as every class that is put on the list is one less to go; and it leaves the list as it was,
  so what it finds for a property depends on nothing but the type of the property and the classes
  around it. What it finds is a tree in which no class lies inside of itself.
-/

import Wiring.Proofs.Configuration.Nesting

namespace Wiring

/-! ## The walk -/

/-- A step of the walk, with the types that are being bound; `none` is a step that is not done. -/
abbrev Walk := StateT (List String) Option

/-- A step for each element that leaves the list as it was leaves it so for all of them. -/
theorem Walk.run_mapM {α β : Type} {step : α → Walk β} {result : α → β} {visiting : List String}
    {xs : List α} (h : ∀ x ∈ xs, (step x).run visiting = some (result x, visiting)) :
    (xs.mapM step).run visiting = some (xs.map result, visiting) := by
  induction xs with
  | nil => rfl
  | cons x rest ih =>
      rw [List.forall_mem_cons] at h
      rw [List.mapM_cons, StateT.run_bind, h.1]
      simp [ih h.2]

/-- The property with a coercion. -/
def Property.boundAs (p : Property) (coercion : Coercion) : BoundProperty :=
  ⟨p.name, p.type, p.type.unwrapped.2, p.setter == .init, coercion⟩

/-- The property with the coercion that is found for its type. -/
def Property.boundBy (p : Property) (coerce : TypeRef → Walk (Option Coercion)) :
    Walk (Option BoundProperty) :=
  return (← coerce p.type.unwrapped.1).map p.boundAs

/-- The settable properties, one after the other, that have a coercion. -/
def Declaration.boundBy (d : Declaration) (coerce : TypeRef → Walk (Option Coercion)) :
    Walk (List BoundProperty) :=
  return (← d.settableProperties.mapM (·.boundBy coerce)).filterMap id

namespace Graph

variable {g : Graph} {visiting : List String} {d e : Declaration}

/-- The coercion of a type, found by going no more than `depth` types deep. A class that is being
    bound already has none. -/
def walk (g : Graph) : Nat → TypeRef → Walk (Option Coercion)
  | 0, _ => failure
  | depth + 1, type => do
    match (Coercion.scalar? type).or (Coercion.enum? type (g.resolve type)), g.resolve type with
    | some coercion, _ => return some coercion
    | none, none => return none
    | none, some d =>
      let visiting ← get
      if type.kind == .classType && type.args.isEmpty && d.isNestable &&
          !visiting.contains d.name then
        set (d.name :: visiting)
        let properties ← d.boundBy (g.walk depth)
        modify fun visiting => visiting.erase d.name
        return some (.nested d.name properties)
      else return none

/-- One property: a walk that leaves the list as it was for its type leaves it so for the property. -/
theorem run_boundBy_property {coerce : TypeRef → Walk (Option Coercion)} {p : Property}
    {coercion : Option Coercion}
    (h : (coerce p.type.unwrapped.1).run visiting = some (coercion, visiting)) :
    (p.boundBy coerce).run visiting = some (coercion.map p.boundAs, visiting) := by
  rw [Property.boundBy, StateT.run_bind, h]
  rfl

/-- All properties: what is found are the properties that are bound. -/
theorem run_boundBy {coerce : TypeRef → Walk (Option Coercion)}
    (h : ∀ type, (coerce type).run visiting = some (g.coercion? visiting type, visiting)) :
    (d.boundBy coerce).run visiting = some (g.boundProperties visiting d, visiting) := by
  rw [Declaration.boundBy, StateT.run_bind,
    Walk.run_mapM fun p _ => run_boundBy_property (h p.type.unwrapped.1)]
  show some ((d.settableProperties.map _).filterMap id, visiting) = _
  rw [List.filterMap_map]
  rfl

/-- The walk ends, and leaves the list as it was, if it may go deeper than there are types that are
    not being bound. -/
theorem run_walk (depth : Nat) (visiting : List String) (type : TypeRef)
    (hdepth : (g.unbound visiting).length < depth) :
    (g.walk depth type).run visiting = some (g.coercion? visiting type, visiting) := by
  induction depth generalizing visiting type with
  | zero => omega
  | succ depth ih =>
      rw [walk, coercion?_eq]
      cases hown : (Coercion.scalar? type).or (Coercion.enum? type (g.resolve type)) with
      | some coercion => rfl
      | none =>
          cases hresolve : g.resolve type with
          | none => rfl
          | some d =>
              rw [Option.none_or, Option.bind_some]
              show StateT.run (if _ then _ else _) visiting = _
              split
              · rename_i hclass
                -- Fewer types are left for the properties of the class
                have hnew : visiting.contains d.name = false := by grind
                have hless := length_unbound_lt (mem_types_of_lookup hresolve) hnew
                have hinside : (d.boundBy (g.walk depth)).run (d.name :: visiting) =
                    some (g.boundProperties (d.name :: visiting) d, d.name :: visiting) :=
                  run_boundBy fun inner => ih (d.name :: visiting) inner (by omega)
                -- The class that was put in front is taken off again
                simp [hinside, List.erase_cons_head]
              · rfl

end Graph

/-! ## Sections inside of a binding -/

/-- A class that is bound as a section. -/
structure BoundSection where
  /-- The types on the way to it, itself first and the type of the binding last. -/
  path : List String
  properties : List BoundProperty

mutual

/-- The sections inside a coercion, `path` being the way to the property. -/
def Coercion.sections (path : List String) : Coercion → List BoundSection
  | .nested type properties =>
    ⟨type :: path, properties⟩ :: BoundProperty.sections (type :: path) properties
  | _ => []

/-- The sections inside properties. -/
def BoundProperty.sections (path : List String) : List BoundProperty → List BoundSection
  | [] => []
  | ⟨_, _, _, _, coercion⟩ :: rest => coercion.sections path ++ BoundProperty.sections path rest

end

/-- The sections of a binding: that of its type, and those inside of it. -/
def Binding.sections (b : Binding) : List BoundSection :=
  ⟨[b.boundType], b.properties⟩ :: BoundProperty.sections [b.boundType] b.properties

/-- What is listed for a section are properties of its owner that can be set. -/
structure BoundSection.Lists (s : BoundSection) (owner : Declaration) : Prop where
  named : s.path.head? = some owner.name
  settable : ∀ b ∈ s.properties, ∃ p ∈ owner.properties, p.isStatic = false ∧
    p.isIndexer = false ∧ p.setter ≠ .none ∧ p.name = b.name ∧ p.type = b.type
  /-- Properties of one type have the same coercion, or are all left out. -/
  uniform : ∃ coerce : TypeRef → Option Coercion,
    s.properties = owner.settableProperties.filterMap fun p => (coerce p.type).map p.boundAs

theorem BoundProperty.mem_sections_iff {path : List String} {properties : List BoundProperty}
    {s : BoundSection} :
    s ∈ sections path properties ↔ ∃ b ∈ properties, s ∈ b.coercion.sections path := by
  induction properties with
  | nil => simp [sections]
  | cons b rest ih =>
      cases b
      simp [sections, ih]

namespace Graph

variable {g : Graph} {visiting : List String} {d e : Declaration} {s : BoundSection}

/-- What is bound are properties that can be set. -/
theorem lists_boundProperties (h : visiting.head? = some d.name) :
    BoundSection.Lists ⟨visiting, g.boundProperties visiting d⟩ d where
  named := h
  settable b hb := by
    obtain ⟨p, hp, hbound⟩ := List.mem_filterMap.mp hb
    obtain ⟨coercion, -, rfl⟩ := Option.map_eq_some_iff.mp hbound
    obtain ⟨hp, hsettable⟩ := List.mem_filter.mp hp
    rw [Property.isSettable, Bool.and_eq_true, Bool.and_eq_true, Bool.not_eq_true',
      Bool.not_eq_true', bne_iff_ne] at hsettable
    exact ⟨p, hp, hsettable.1.1, hsettable.1.2, hsettable.2, rfl, rfl⟩
  uniform := ⟨fun type => g.coercion? visiting type.unwrapped.1, rfl⟩

/-- The way to a section inside of the properties of a declaration leads through classes that are
    not being bound, none of them twice, and the properties of the last one are listed. -/
theorem lists_of_mem_sections (g : Graph) (visiting : List String) (d : Declaration)
    (hnodup : visiting.Nodup)
    (hs : s ∈ BoundProperty.sections visiting (g.boundProperties visiting d)) :
    s.path.Nodup ∧ (∃ inner outer, s.path = inner :: outer ++ visiting) ∧
      ∃ e, g.lookup e.name = some e ∧ s.Lists e := by
  obtain ⟨b, hb, hs⟩ := BoundProperty.mem_sections_iff.mp hs
  obtain ⟨p, -, hbound⟩ := List.mem_filterMap.mp hb
  obtain ⟨coercion, hcoercion, rfl⟩ := Option.map_eq_some_iff.mp hbound
  change s ∈ coercion.sections visiting at hs
  cases coercion with
  | nested type properties =>
      obtain ⟨e, ⟨-, -, -, hresolve, -, hnew⟩, rfl, rfl⟩ := coercion?_eq_nested_iff.mp hcoercion
      have hlookup : g.lookup e.name = some e := lookup_of_resolve hresolve
      have hpath : (e.name :: visiting).Nodup := List.nodup_cons.mpr ⟨hnew, hnodup⟩
      rw [Coercion.sections, List.mem_cons] at hs
      rcases hs with rfl | hs
      · exact ⟨hpath, ⟨e.name, [], rfl⟩, e, hlookup, lists_boundProperties rfl⟩
      · have hfresh : visiting.contains e.name = false := by simpa using hnew
        have hless := length_unbound_lt (mem_types_of_lookup hlookup) hfresh
        obtain ⟨hapart, ⟨inner, outer, hway⟩, howner⟩ :=
          lists_of_mem_sections g (e.name :: visiting) e hpath hs
        refine ⟨hapart, ⟨inner, outer ++ [e.name], ?_⟩, howner⟩
        rw [hway, List.cons_append, List.cons_append, List.append_assoc]
        rfl
  | _ => cases hs
termination_by (g.unbound visiting).length

end Graph

mutual

/-- There is one section for each class inside a coercion. -/
theorem Coercion.heads_sections (path : List String) : ∀ coercion : Coercion,
    (coercion.sections path).filterMap (·.path.head?) = coercion.nestedTypes
  | .passthrough | .numeric _ | .boolean | .temporal _ | .guid | .enum _ _ => rfl
  | .nested type properties => by
    rw [Coercion.sections, Coercion.nestedTypes,
      ← BoundProperty.heads_sections (type :: path) properties]
    rfl

theorem BoundProperty.heads_sections (path : List String) : ∀ properties : List BoundProperty,
    (BoundProperty.sections path properties).filterMap (·.path.head?) =
      BoundProperty.nestedTypes properties
  | [] => rfl
  | ⟨_, _, _, _, coercion⟩ :: rest => by
    rw [BoundProperty.sections, BoundProperty.nestedTypes, List.filterMap_append,
      Coercion.heads_sections path coercion, BoundProperty.heads_sections path rest]

end

/-- The way to a section of a binding goes from class to class without meeting one twice, and the
    settable properties of the class at its end are listed: of the bound declaration itself, or of
    the one that the class is looked up as. -/
structure BoundSection.KeepsOutOfCircles (s : BoundSection) (g : Graph) (d : Declaration) :
    Prop where
  apart : s.path.Nodup
  owned : ∃ owner, s.Lists owner ∧
    (s.path = [d.name] ∧ owner = d ∨
      (∃ inner outer, s.path = inner :: outer ++ [d.name]) ∧ g.lookup owner.name = some owner)

theorem keepsOutOfCircles_of_mem_sections {g : Graph} {d : Declaration} {b : Binding}
    {s : BoundSection} (hb : b ∈ d.bindings g) (hs : s ∈ b.sections) : s.KeepsOutOfCircles g d := by
  obtain ⟨request, -, rfl⟩ := List.mem_map.mp hb
  have hroot : [d.name].Nodup := List.nodup_singleton _
  rcases List.mem_cons.mp hs with rfl | hs
  · exact ⟨hroot, d, g.lists_boundProperties rfl, .inl ⟨rfl, rfl⟩⟩
  · obtain ⟨hapart, hway, owner, hlookup, hlists⟩ := g.lists_of_mem_sections [d.name] d hroot hs
    exact ⟨hapart, owner, hlists, .inr ⟨hway, hlookup⟩⟩

/-- However types refer to each other, going through the properties of a declaration ends; each
    property leaves the types that are being bound as they were; and in what is found, no class lies
    inside of itself or of the bound type, and each lists settable properties of its own. -/
theorem bindings_keep_out_of_circles (g : Graph) (d : Declaration) :
    (∀ visiting depth, (g.unbound visiting).length < depth → ∀ p : Property,
      (p.boundBy (g.walk depth)).run visiting =
        some ((g.coercion? visiting p.type.unwrapped.1).map p.boundAs, visiting)) ∧
    ∀ b ∈ d.bindings g,
      (∀ depth, (g.unbound [d.name]).length < depth →
        (d.boundBy (g.walk depth)).run [d.name] = some (b.properties, [d.name])) ∧
      b.sections.filterMap (·.path.head?) = d.name :: BoundProperty.nestedTypes b.properties ∧
      ∀ s ∈ b.sections, s.KeepsOutOfCircles g d := by
  refine ⟨?_, ?_⟩
  · intro visiting depth hdepth p
    exact Graph.run_boundBy_property (g.run_walk depth visiting p.type.unwrapped.1 hdepth)
  · intro b hb
    refine ⟨?_, ?_, fun s hs => keepsOutOfCircles_of_mem_sections hb hs⟩
    · intro depth hdepth
      obtain ⟨request, -, rfl⟩ := List.mem_map.mp hb
      exact Graph.run_boundBy fun type => g.run_walk depth [d.name] type hdepth
    · obtain ⟨request, -, rfl⟩ := List.mem_map.mp hb
      exact congrArg (List.cons d.name)
        (BoundProperty.heads_sections [d.name] (g.boundProperties [d.name] d))

/-- A class that holds itself, and another class twice. -/
def Declaration.tree : Declaration where
  name := "App.Tree"
  moduleName := "App"
  properties := [
    { name := "Child", type := .ofClass "App.Tree" },
    { name := "Left", type := .ofClass "App.Leaf" },
    { name := "Right", type := .ofClass "App.Leaf" }]
  markers := [.configurationSection {}]

/-- The class that it holds, which holds it in turn. -/
def Declaration.leaf : Declaration where
  name := "App.Leaf"
  moduleName := "App"
  properties := [
    { name := "Tree", type := .ofClass "App.Tree" },
    { name := "Size", type := .ofPrimitive "int" }]

/-- A build of these classes. -/
def Graph.forest : Graph where
  current := "App"
  modules := [{ name := "App", types := [.tree, .leaf] }]

/-- The walk through the tree ends; it finds nothing for the tree in itself, and a section for the
    leaves. -/
theorem tree_keeps_out_of_circles :
    (Graph.forest.unbound ["App.Tree"]).length < 2 ∧
      ((⟨"Child", .ofClass "App.Tree", false, false, .set⟩ : Property).boundBy
        (Graph.forest.walk 2)).run ["App.Tree"] = some (none, ["App.Tree"]) ∧
      ∃ b ∈ Declaration.tree.bindings .forest,
        (Declaration.tree.boundBy (Graph.forest.walk 2)).run ["App.Tree"] =
          some (b.properties, ["App.Tree"]) ∧
        ∃ s ∈ b.sections, s.path.head? = some "App.Leaf" ∧
          s.KeepsOutOfCircles .forest .tree := by
  have hdepth : (Graph.forest.unbound ["App.Tree"]).length < 2 := by decide
  let b : Binding := Declaration.tree.binding .forest {}
  have hb : b ∈ Declaration.tree.bindings .forest := .head _
  obtain ⟨hproperty, hbindings⟩ := bindings_keep_out_of_circles .forest .tree
  obtain ⟨hends, hheads, hsections⟩ := hbindings b hb
  refine ⟨hdepth, ?_, b, hb, hends 2 hdepth, ?_⟩
  · have hskipped : Graph.forest.coercion? ["App.Tree"] (.ofClass "App.Tree") = none := by
      rw [Graph.coercion?_eq]
      decide
    rw [hproperty _ 2 hdepth]
    show some (Option.map _ (Graph.forest.coercion? ["App.Tree"] (.ofClass "App.Tree")), _) = _
    rw [hskipped]
    rfl
  · -- The tree leads to the leaves
    have hnests : Graph.forest.NestsOutside ["App.Tree"] .tree .leaf :=
      ⟨⟨{ name := "Left", type := .ofClass "App.Leaf" }, by decide, by decide, by decide, by decide,
        by decide, by decide⟩, by decide⟩
    have hleaf : "App.Leaf" ∈ b.sections.filterMap (·.path.head?) := by
      rw [hheads]
      exact .tail _ ((Graph.mem_nestedTypes_iff _ _ _ _).mpr ⟨.leaf, rfl, .single hnests⟩)
    obtain ⟨s, hs, hhead⟩ := List.mem_filterMap.mp hleaf
    exact ⟨s, hs, hhead, hsections s hs⟩

end Wiring
