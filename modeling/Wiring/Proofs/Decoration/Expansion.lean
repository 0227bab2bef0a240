/-
  Wiring.Proofs.Decoration.Expansion

  What open decorators are closed over. Every pairing of an open decorator with a closed interface
  that its target matches gives a decorator; of those that read the same, with the same text over a
  target of the same text, the one that is met first is kept. So every pairing is accounted for,
  none is accounted for twice, and how often an interface is listed, or where, does not count.
-/

import Wiring.Proofs.Decoration.Closing
import Wiring.Proofs.Listing.Distinct
import Wiring.Proofs.TypeRef.Order

namespace Wiring

/-- The texts by which decorators are told apart when open ones are closed. -/
def Decorator.texts (d : Decorator) : String × String := (d.type.text, d.target.text)

theorem Decorator.texts_eq_iff {x y : Decorator} :
    x.texts = y.texts ↔ x.type.text = y.type.text ∧ x.target.text = y.target.text :=
  Prod.mk_inj

namespace OpenDecorator

/-- The open decorators closed over every closed interface that they match, in the order in which
    the pairings are met. -/
def pairings (decorators : List OpenDecorator) (interfaces : List TypeRef) : List Decorator :=
  decorators.flatMap fun o =>
    (TypeRef.distinct (interfaces.filter fun i => !i.isOpen)).filterMap o.closeOver

/-- The list has a decorator for each pairing of an open decorator with a closed interface, and no
    other; no two of them read the same. -/
structure IsExpansion (decorators : List OpenDecorator) (interfaces : List TypeRef)
    (expansion : List Decorator) : Prop where
  complete : ∀ o ∈ decorators, ∀ i ∈ interfaces, ∀ d, o.closeOver i = some d →
    ∃ x ∈ expansion, x.type.text = d.type.text ∧ x.target.text = d.target.text
  sound : ∀ x ∈ expansion, ∃ o ∈ decorators, ∃ i ∈ interfaces, i.isOpen = false ∧
    o.closeOver i = some x
  apart : expansion.Pairwise fun x y =>
    ¬ (x.type.text = y.type.text ∧ x.target.text = y.target.text)

variable {decorators : List OpenDecorator} {interfaces : List TypeRef} {o : OpenDecorator}
  {i : TypeRef} {x y : Decorator}

/-! ## One pairing -/

/-- An open decorator is closed over a closed interface that its target matches, and over no
    other. -/
theorem closeOver_eq_some_iff :
    o.closeOver i = some x ↔
      i.isOpen = false ∧ ∃ bindings, o.target.bindAgainst i = some bindings ∧
        x = ⟨o.type.substitute bindings, i, o.order, o.moduleName,
          o.construction.substitute bindings, true⟩ := by
  refine ⟨fun h => ?_, ?_⟩
  · unfold closeOver at h
    split at h
    · cases h
    · rename_i hclosed
      obtain ⟨bindings, hbind, rfl⟩ := Option.map_eq_some_iff.mp h
      exact ⟨Bool.eq_false_iff.mpr hclosed, bindings, hbind, rfl⟩
  · rintro ⟨hclosed, bindings, hbind, rfl⟩
    exact o.closeOver_eq_some hclosed hbind

/-- Only closed interfaces are matched. -/
theorem isOpen_eq_false_of_closeOver (h : o.closeOver i = some x) : i.isOpen = false :=
  (closeOver_eq_some_iff.mp h).1

/-- The closed decorator stands at the place of the open one. -/
theorem order_of_closeOver (h : o.closeOver i = some x) : x.order = o.order := by
  obtain ⟨-, bindings, -, rfl⟩ := closeOver_eq_some_iff.mp h
  rfl

/-- The closed decorator targets the interface. -/
theorem target_of_closeOver (h : o.closeOver i = some x) : x.target = i := by
  obtain ⟨-, bindings, -, rfl⟩ := closeOver_eq_some_iff.mp h
  rfl

/-! ## All pairings -/

theorem mem_pairings_iff :
    x ∈ pairings decorators interfaces ↔
      ∃ o ∈ decorators, ∃ i ∈ interfaces, o.closeOver i = some x := by
  unfold pairings
  simp only [List.mem_flatMap, List.mem_filterMap, TypeRef.mem_distinct, List.mem_filter,
    Bool.not_eq_true']
  refine exists_congr fun o => and_congr_right fun _ => exists_congr fun i => ?_
  refine ⟨?_, ?_⟩
  · rintro ⟨⟨hi, -⟩, hclose⟩
    exact ⟨hi, hclose⟩
  · rintro ⟨hi, hclose⟩
    exact ⟨⟨hi, isOpen_eq_false_of_closeOver hclose⟩, hclose⟩

/-- The pairings depend on nothing but which interfaces there are. -/
theorem pairings_eq_of_mem_iff {interfaces' : List TypeRef}
    (hmem : ∀ i, i ∈ interfaces' ↔ i ∈ interfaces) :
    pairings decorators interfaces' = pairings decorators interfaces := by
  have hclosed : TypeRef.distinct (interfaces'.filter fun i => !i.isOpen) =
      TypeRef.distinct (interfaces.filter fun i => !i.isOpen) := by
    apply TypeRef.distinct_eq_of_mem_iff
    intro i
    rw [List.mem_filter, List.mem_filter, hmem]
  unfold pairings
  rw [hclosed]

/-! ## The decorators that are kept -/

/-- Of the pairings that read the same the first is kept. -/
theorem closeAll_eq : closeAll decorators interfaces =
    (pairings decorators interfaces).distinctOn Decorator.texts := rfl

theorem mem_pairings_of_mem_closeAll (h : x ∈ closeAll decorators interfaces) :
    x ∈ pairings decorators interfaces :=
  (List.distinctOn_sublist _ _).mem h

/-- What is kept is an open decorator closed over one of the interfaces. -/
theorem exists_closeOver_of_mem_closeAll (h : x ∈ closeAll decorators interfaces) :
    ∃ o ∈ decorators, ∃ i ∈ interfaces, o.closeOver i = some x :=
  mem_pairings_iff.mp (mem_pairings_of_mem_closeAll h)

/-- A pairing is kept if it is the one that is met first among those that read the same. -/
theorem mem_closeAll_iff : x ∈ closeAll decorators interfaces ↔
    (pairings decorators interfaces).find? (fun z => z.texts == x.texts) = some x := by
  rw [closeAll_eq, List.mem_distinctOn_iff]

/-- The pairing that is met first among those that read the same is kept. -/
theorem mem_closeAll_of_find?
    (h : (pairings decorators interfaces).find? (fun z => z.texts == y.texts) = some x) :
    x ∈ closeAll decorators interfaces ∧ x.texts = y.texts := by
  have htexts : x.texts = y.texts := by simpa using List.find?_some h
  refine ⟨?_, htexts⟩
  rw [mem_closeAll_iff, htexts]
  exact h

/-- No two decorators that are kept read the same. -/
theorem eq_of_mem_closeAll (hx : x ∈ closeAll decorators interfaces)
    (hy : y ∈ closeAll decorators interfaces) (htexts : x.texts = y.texts) : x = y := by
  rw [mem_closeAll_iff] at hx hy
  rw [htexts, hy] at hx
  exact (Option.some.inj hx).symm

theorem isExpansion_closeAll :
    IsExpansion decorators interfaces (closeAll decorators interfaces) where
  complete o ho i hi d hclose := by
    have hpairing : d ∈ pairings decorators interfaces :=
      mem_pairings_iff.mpr ⟨o, ho, i, hi, hclose⟩
    obtain ⟨x, hx, htexts⟩ := List.exists_mem_distinctOn Decorator.texts hpairing
    exact ⟨x, hx, Decorator.texts_eq_iff.mp htexts⟩
  sound x hx := by
    obtain ⟨o, ho, i, hi, hclose⟩ := exists_closeOver_of_mem_closeAll hx
    exact ⟨o, ho, i, hi, isOpen_eq_false_of_closeOver hclose, hclose⟩
  apart := by
    have hnodup := List.nodup_map_distinctOn Decorator.texts (pairings decorators interfaces)
    rw [← closeAll_eq, List.Nodup, List.pairwise_map] at hnodup
    exact hnodup.imp fun hne htexts => hne (Decorator.texts_eq_iff.mpr htexts)

/-- Closing open decorators over a list of interfaces leaves out no pairing, adds none and has none
    twice; and interfaces that are listed more than once, or in another order, make no
    difference. -/
theorem closeAll_expands (decorators : List OpenDecorator) (interfaces : List TypeRef) :
    IsExpansion decorators interfaces (closeAll decorators interfaces) ∧
      ∀ interfaces' : List TypeRef, (∀ i, i ∈ interfaces' ↔ i ∈ interfaces) →
        closeAll decorators interfaces' = closeAll decorators interfaces := by
  refine ⟨isExpansion_closeAll, fun interfaces' hmem => ?_⟩
  rw [closeAll_eq, closeAll_eq, pairings_eq_of_mem_iff hmem]

/-- A decorator of the handlers of every message. -/
def ofHandlers (name : String) (place : Int32) : OpenDecorator where
  type := (TypeRef.ofClass name).withArg (.parameter "T")
  target := .handlerOf (.parameter "T")
  order := place
  moduleName := "App"
  construction := ⟨0, [⟨"inner", .handlerOf (.parameter "T"), .inner⟩]⟩

/-- Handlers of orders and of bills, one of which two services expose. -/
theorem handlers_expand :
    (∀ i, i ∈ [TypeRef.handlerOf (.ofClass "App.Bill"), .handlerOf (.ofClass "App.Order")] ↔
      i ∈ [TypeRef.handlerOf (.ofClass "App.Order"), .handlerOf (.ofClass "App.Bill"),
        .handlerOf (.ofClass "App.Order")]) ∧
    closeAll [ofHandlers "App.Retry" 1]
        [.handlerOf (.ofClass "App.Bill"), .handlerOf (.ofClass "App.Order")] =
      closeAll [ofHandlers "App.Retry" 1]
        [.handlerOf (.ofClass "App.Order"), .handlerOf (.ofClass "App.Bill"),
          .handlerOf (.ofClass "App.Order")] ∧
    ∃ x ∈ closeAll [ofHandlers "App.Retry" 1]
        [.handlerOf (.ofClass "App.Order"), .handlerOf (.ofClass "App.Bill"),
          .handlerOf (.ofClass "App.Order")],
      x.type.text = ((TypeRef.ofClass "App.Retry").withArg (.ofClass "App.Bill")).text := by
  obtain ⟨hexpansion, hsame⟩ := closeAll_expands [ofHandlers "App.Retry" 1]
    [.handlerOf (.ofClass "App.Order"), .handlerOf (.ofClass "App.Bill"),
      .handlerOf (.ofClass "App.Order")]
  have hmem : ∀ i, i ∈ [TypeRef.handlerOf (.ofClass "App.Bill"), .handlerOf (.ofClass "App.Order")] ↔
      i ∈ [TypeRef.handlerOf (.ofClass "App.Order"), .handlerOf (.ofClass "App.Bill"),
        .handlerOf (.ofClass "App.Order")] := by
    intro i
    simp only [List.mem_cons, List.not_mem_nil, or_false]
    tauto
  obtain ⟨x, hx, htype, -⟩ := hexpansion.complete (ofHandlers "App.Retry" 1) (.head _)
    (.handlerOf (.ofClass "App.Bill")) (.tail _ (.head _)) _ rfl
  exact ⟨hmem, hsame _ hmem, x, hx, htype⟩

end OpenDecorator
end Wiring
