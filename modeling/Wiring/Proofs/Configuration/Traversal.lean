/-
  Wiring.Proofs.Configuration.Traversal

  The tree of a binding: its properties, those of the classes that they hold, and so on. The
  traversal lists each property in front of those inside of it, with the names of the properties
  around it; it has all properties of the tree and no others.
-/

import Wiring.Configuration.Binding

namespace Wiring

/-- A property in the tree of a binding. -/
structure PlacedProperty where
  /-- The names of the properties that it lies in, the outermost first. -/
  around : List String
  property : BoundProperty

mutual

/-- The properties inside of a coercion, each in front of those inside of it. -/
def Coercion.traversal (around : List String) : Coercion → List PlacedProperty
  | .nested _ properties => BoundProperty.traversal around properties
  | _ => []

/-- Properties with those inside of them, each in front of those inside of it. -/
def BoundProperty.traversal (around : List String) : List BoundProperty → List PlacedProperty
  | [] => []
  | ⟨name, type, nullable, initOnly, coercion⟩ :: rest =>
    ⟨around, ⟨name, type, nullable, initOnly, coercion⟩⟩ ::
      (coercion.traversal (around ++ [name]) ++ BoundProperty.traversal around rest)

end

/-- The properties of a binding at any depth, in preorder. -/
def Binding.traversal (b : Binding) : List PlacedProperty := BoundProperty.traversal [] b.properties

/-- A property lies in properties, as one of them or inside of one, with the names of the properties
    that lead to it. -/
inductive BoundProperty.LiesIn (property : BoundProperty) :
    List String → List BoundProperty → Prop
  | among {properties : List BoundProperty} (h : property ∈ properties) :
      property.LiesIn [] properties
  | inside {properties inner : List BoundProperty} {outer : BoundProperty} {type : String}
      {around : List String} (houter : outer ∈ properties)
      (hnested : outer.coercion = .nested type inner) (h : property.LiesIn around inner) :
      property.LiesIn (outer.name :: around) properties

namespace BoundProperty

variable {property outer : BoundProperty} {around : List String} {rest : List BoundProperty}

/-- What lies in properties is the first of them, inside of the first, or in the others. -/
theorem liesIn_cons_iff {first : BoundProperty} :
    property.LiesIn around (first :: rest) ↔
      (around = [] ∧ property = first) ∨
      (∃ type inner inward, first.coercion = .nested type inner ∧ around = first.name :: inward ∧
        property.LiesIn inward inner) ∨
      property.LiesIn around rest := by
  constructor
  · intro h
    cases h with
    | among h =>
        rcases List.mem_cons.mp h with rfl | h
        · exact .inl ⟨rfl, rfl⟩
        · exact .inr (.inr (.among h))
    | inside houter hnested h =>
        rcases List.mem_cons.mp houter with rfl | houter
        · exact .inr (.inl ⟨_, _, _, hnested, rfl, h⟩)
        · exact .inr (.inr (.inside houter hnested h))
  · rintro (⟨rfl, rfl⟩ | ⟨type, inner, inward, hnested, rfl, h⟩ | h)
    · exact .among (List.mem_cons_self ..)
    · exact .inside (List.mem_cons_self ..) hnested h
    · cases h with
      | among h => exact .among (List.mem_cons_of_mem _ h)
      | inside houter hnested h => exact .inside (List.mem_cons_of_mem _ houter) hnested h

end BoundProperty

mutual

theorem Coercion.mem_traversal_iff (around : List String) (placed : PlacedProperty) :
    ∀ coercion : Coercion, placed ∈ coercion.traversal around ↔
      ∃ type inner inward, coercion = .nested type inner ∧ placed.around = around ++ inward ∧
        placed.property.LiesIn inward inner
  | .nested type properties => by
    rw [Coercion.traversal, BoundProperty.mem_traversal_iff around placed properties]
    constructor
    · rintro ⟨inward, haround, h⟩
      exact ⟨type, properties, inward, rfl, haround, h⟩
    · rintro ⟨_, _, inward, heq, haround, h⟩
      cases heq
      exact ⟨inward, haround, h⟩
  | .passthrough | .numeric _ | .boolean | .temporal _ | .guid | .enum .. => by
    simp [Coercion.traversal]

/-- The traversal has what lies in the properties, with the names that lead to it. -/
theorem BoundProperty.mem_traversal_iff (around : List String) (placed : PlacedProperty) :
    ∀ properties : List BoundProperty, placed ∈ BoundProperty.traversal around properties ↔
      ∃ inward, placed.around = around ++ inward ∧ placed.property.LiesIn inward properties
  | [] => by
    constructor
    · exact fun h => (List.not_mem_nil h).elim
    · rintro ⟨_, -, h⟩
      cases h with
      | among h => cases h
      | inside houter => cases houter
  | ⟨name, type, nullable, initOnly, coercion⟩ :: rest => by
    rw [BoundProperty.traversal, List.mem_cons, List.mem_append,
      Coercion.mem_traversal_iff (around ++ [name]) placed coercion,
      BoundProperty.mem_traversal_iff around placed rest]
    constructor
    · rintro (rfl | ⟨_, inner, inward, hnested, haround, h⟩ | ⟨inward, haround, h⟩)
      · exact ⟨[], (List.append_nil _).symm, .among (List.mem_cons_self ..)⟩
      · refine ⟨name :: inward, ?_, ?_⟩
        · rw [haround, List.append_assoc, List.singleton_append]
        · exact BoundProperty.liesIn_cons_iff.mpr (.inr (.inl ⟨_, inner, inward, hnested, rfl, h⟩))
      · exact ⟨inward, haround, BoundProperty.liesIn_cons_iff.mpr (.inr (.inr h))⟩
    · rintro ⟨way, haround, h⟩
      rcases BoundProperty.liesIn_cons_iff.mp h with
        ⟨rfl, hfirst⟩ | ⟨_, inner, inward, hnested, rfl, hinside⟩ | hrest
      · -- The property itself
        left
        rw [List.append_nil] at haround
        cases placed
        cases haround
        cases hfirst
        rfl
      · refine .inr (.inl ⟨_, inner, inward, hnested, ?_, hinside⟩)
        rw [haround, List.append_assoc, List.singleton_append]
      · exact .inr (.inr ⟨way, haround, hrest⟩)

end

end Wiring
