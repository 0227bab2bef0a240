/-
  Wiring.Proofs.Decoration.LowestOrder

  The place of a decorator that is closed over an interface. A declared decorator that is asked for
  at several places stands at the lowest of them. When open decorators are closed, the pairing that
  is met first is kept and not the lowest one, before any chain is sorted; so a layer has the lowest
  order of its pairings exactly if the pairings are met with the lowest first, which they are where
  the open decorators of one type are listed by their places. Nothing at all is lost to a chain if,
  besides, decorators that read the same are the same.
-/

import Wiring.Proofs.Decoration.Closedness
import Wiring.Proofs.Decoration.Expansion
import Wiring.Proofs.Decoration.Linearization
import Wiring.Proofs.TypeRef.Instance
import Mathlib.Data.List.Find

namespace Wiring

open Std

/-- Every layer stands at the lowest place that an open decorator gives it when it is closed over an
    interface that reads like the target. -/
def Chain.HasLowestOrders (c : Chain) (decorators : List OpenDecorator)
    (interfaces : List TypeRef) : Prop :=
  ∀ l ∈ c.layers, IsLeast
    {place | ∃ o ∈ decorators, ∃ i ∈ interfaces, i.isOpen = false ∧ i.text = c.target.text ∧
      ∃ x, o.closeOver i = some x ∧ x.type = l.decorator ∧ o.order = place} l.order

namespace OpenDecorator

/-- Of the pairings that read the same and are the same type, the one that is met first has the
    lowest order. -/
def MeetsLowestFirst (decorators : List OpenDecorator) (interfaces : List TypeRef) : Prop :=
  ∀ y ∈ pairings decorators interfaces, ∀ x,
    (pairings decorators interfaces).find? (fun z => z.texts == y.texts) = some x →
      x.type = y.type → x.order ≤ y.order

/-- Pairings that read the same are the same type. -/
def TextsTellApart (decorators : List OpenDecorator) (interfaces : List TypeRef) : Prop :=
  ∀ x ∈ pairings decorators interfaces, ∀ y ∈ pairings decorators interfaces,
    x.texts = y.texts → x.type = y.type

end OpenDecorator

/-! ## Lines with the same members -/

namespace Decorator

variable {members kept : List Decorator} {x y : Decorator}

theorem nodup_map_type_inLine : ((inLine members).map (·.type)).Nodup :=
  List.nodup_map_distinctOn _ _

/-- A decorator stands in line for the others of its type if it is met first and none of them has a
    lower order. -/
theorem mem_inLine_of_find? (hfind : members.find? (fun y => y.type == x.type) = some x)
    (hlowest : ∀ y ∈ members, y.type = x.type → x.order ≤ y.order) : x ∈ inLine members := by
  rw [inLine, List.mem_distinctOn_iff]
  apply List.find?_sortBy hfind
  intro y hy htype
  rw [beq_iff_eq] at htype
  have hle := hlowest y hy htype
  rw [innerFirst_isLE_iff, htype]
  rcases Int32.lt_or_eq_of_le hle with hlt | heq
  · exact .inl hlt
  · exact .inr ⟨heq, Std.le_refl _⟩

/-- A line is known by its members if no two types in it read the same. -/
theorem inLine_eq_of_mem_iff (hmem : ∀ x, x ∈ inLine kept ↔ x ∈ inLine members)
    (happart : ∀ x ∈ inLine members, ∀ y ∈ inLine members,
      x.type.text = y.type.text → x.type = y.type) :
    inLine kept = inLine members := by
  have hperm : (inLine kept).Perm (inLine members) :=
    (List.perm_ext_iff_of_nodup nodup_map_type_inLine.of_map nodup_map_type_inLine.of_map).mpr hmem
  apply hperm.eq_of_pairwise _ pairwise_inLine pairwise_inLine
  intro x y hx hy hxy hyx
  -- Each stands before the other, so they have the same text and then the same type
  have heq : innerFirst x y = .eq := OrientedCmp.isLE_antisymm hxy hyx
  rw [innerFirst, compareLex, Ordering.then_eq_eq] at heq
  have htext : x.type.text = y.type.text := Std.compare_eq_iff_eq.mp heq.2
  have hx' := (hmem x).mp hx
  exact List.inj_on_of_nodup_map nodup_map_type_inLine hx' hy (happart x hx' y hy htext)

end Decorator

namespace OpenDecorator

variable {decorators : List OpenDecorator} {interfaces : List TypeRef} {services : List Service}
  {x y : Decorator} {c : Chain}

/-! ## Lowest orders -/

/-- The places of a pairing, looked up among the pairings. -/
theorem exists_closeOver_iff {text : String} {type : TypeRef} {place : Int32} :
    (∃ o ∈ decorators, ∃ i ∈ interfaces, i.isOpen = false ∧ i.text = text ∧
        ∃ x, o.closeOver i = some x ∧ x.type = type ∧ o.order = place) ↔
      ∃ x ∈ pairings decorators interfaces, x.target.text = text ∧ x.type = type ∧
        x.order = place := by
  refine ⟨?_, ?_⟩
  · rintro ⟨o, ho, i, hi, -, htext, x, hclose, htype, hplace⟩
    exact ⟨x, mem_pairings_iff.mpr ⟨o, ho, i, hi, hclose⟩, target_of_closeOver hclose ▸ htext,
      htype, (order_of_closeOver hclose).trans hplace⟩
  · rintro ⟨x, hx, htext, htype, hplace⟩
    obtain ⟨o, ho, i, hi, hclose⟩ := mem_pairings_iff.mp hx
    exact ⟨o, ho, i, hi, isOpen_eq_false_of_closeOver hclose, target_of_closeOver hclose ▸ htext,
      x, hclose, htype, (order_of_closeOver hclose).symm.trans hplace⟩

theorem hasLowestOrders_iff :
    c.HasLowestOrders decorators interfaces ↔ ∀ l ∈ c.layers, IsLeast
      {place | ∃ x ∈ pairings decorators interfaces, x.target.text = c.target.text ∧
        x.type = l.decorator ∧ x.order = place} l.order := by
  simp only [Chain.HasLowestOrders, exists_closeOver_iff]

/-- A decorator that is kept is the one that stands in its chain, at its own place. -/
theorem order_eq_of_mem_closeAll
    (hlinearizes : c.Linearizes (closeAll decorators interfaces) services) {l : Layer}
    (hl : l ∈ c.layers) (hx : x ∈ closeAll decorators interfaces)
    (htarget : x.target.text = c.target.text) (htype : x.type = l.decorator) :
    l.order = x.order := by
  obtain ⟨⟨d, hd, hdtarget, hdtype, hdorder⟩, -⟩ := hlinearizes.lowest l hl
  have htexts : d.texts = x.texts :=
    Decorator.texts_eq_iff.mpr ⟨by rw [hdtype, htype], hdtarget.trans htarget.symm⟩
  rw [← hdorder, eq_of_mem_closeAll hd hx htexts]

/-- The layers have the lowest orders of their pairings exactly if the pairings are met with the
    lowest first. -/
theorem hasLowestOrders_iff_meetsLowestFirst (services : List Service) :
    (∀ c ∈ Chain.compose (closeAll decorators interfaces) services,
        c.HasLowestOrders decorators interfaces) ↔
      MeetsLowestFirst decorators interfaces := by
  simp only [hasLowestOrders_iff]
  refine ⟨fun h => ?_, fun h => ?_⟩
  · intro y hy x hfind htype
    obtain ⟨hx, htexts⟩ := mem_closeAll_of_find? hfind
    -- The pairing that is met first has a layer, at its own place
    obtain ⟨c, hc, htext, hinside⟩ := Chain.exists_mem_compose services hx
    obtain ⟨l, hl, hdecorator⟩ := List.mem_map.mp hinside
    have horder := order_eq_of_mem_closeAll (Chain.linearizes_of_mem_compose hc) hl hx htext.symm
      hdecorator.symm
    rw [← horder]
    have hytext : y.target.text = c.target.text :=
      (Decorator.texts_eq_iff.mp htexts).2.symm.trans htext.symm
    exact (h c hc l hl).2 ⟨y, hy, hytext, htype.symm.trans hdecorator.symm, rfl⟩
  · intro c hc l hl
    have hlinearizes := Chain.linearizes_of_mem_compose hc
    obtain ⟨x, hx, htarget, hlayer⟩ := hlinearizes.made l hl
    have htype : x.type = l.decorator := by rw [hlayer]; rfl
    have horder : x.order = l.order := by rw [hlayer]; rfl
    refine ⟨⟨x, mem_pairings_of_mem_closeAll hx, htarget, htype, horder⟩, ?_⟩
    rintro place ⟨y, hy, hytarget, hytype, rfl⟩
    have htexts : x.texts = y.texts :=
      Decorator.texts_eq_iff.mpr ⟨by rw [htype, hytype], htarget.trans hytarget.symm⟩
    rw [← horder]
    rw [mem_closeAll_iff, htexts] at hx
    exact h y hy x hx (htype.trans hytype.symm)

/-! ## Chains that lose nothing -/

/-- The targets do not depend on which of the pairings that read the same are kept. -/
theorem distinctOn_target_closeAll :
    ((closeAll decorators interfaces).map (·.target)).distinctOn TypeRef.text =
      ((pairings decorators interfaces).map (·.target)).distinctOn TypeRef.text := by
  have hkeep := List.distinctOn_distinctOn Decorator.texts Prod.snd
    (pairings decorators interfaces)
  rw [List.distinctOn_map, List.distinctOn_map, closeAll_eq]
  exact congrArg (List.map Decorator.target) hkeep

/-- A decorator that is kept stands in line for all pairings of its target that are its type. -/
theorem mem_inLine_pairings (hapart : TextsTellApart decorators interfaces)
    (hlowest : MeetsLowestFirst decorators interfaces)
    (hx : x ∈ closeAll decorators interfaces) :
    x ∈ Decorator.inLine
      ((pairings decorators interfaces).filter (·.target.text == x.target.text)) := by
  have hpairing := mem_pairings_of_mem_closeAll hx
  rw [mem_closeAll_iff] at hx
  apply Decorator.mem_inLine_of_find?
  · -- A search for its type among the pairings of the target is a search for what reads the same
    rw [List.find?_filter, ← hx]
    apply List.find?_congr
    intro y hy
    rw [Bool.eq_iff_iff, decide_eq_true_iff, beq_iff_eq, beq_iff_eq, beq_iff_eq]
    refine ⟨fun h => ?_, fun htexts => ?_⟩
    · exact Decorator.texts_eq_iff.mpr ⟨congrArg TypeRef.text h.2, h.1⟩
    · exact ⟨(Decorator.texts_eq_iff.mp htexts).2, hapart y hy x hpairing htexts⟩
  · intro y hy htype
    obtain ⟨hy, htarget⟩ := List.mem_filter.mp hy
    rw [beq_iff_eq] at htarget
    have htexts : x.texts = y.texts :=
      Decorator.texts_eq_iff.mpr ⟨congrArg TypeRef.text htype.symm, htarget.symm⟩
    rw [htexts] at hx
    exact hlowest y hy x hx htype.symm

/-- A decorator that is kept is the only one of its type, so it stands in line. -/
theorem mem_inLine_closeAll (hx : x ∈ closeAll decorators interfaces) :
    x ∈ Decorator.inLine
      ((closeAll decorators interfaces).filter (·.target.text == x.target.text)) := by
  have hmember : x ∈ (closeAll decorators interfaces).filter (·.target.text == x.target.text) :=
    List.mem_filter.mpr ⟨hx, beq_self_eq_true _⟩
  obtain ⟨y, hline, htype⟩ := List.mem_map.mp
    (Decorator.mem_map_type_inLine_iff.mpr ⟨x, hmember, rfl⟩)
  obtain ⟨hy, htarget⟩ := List.mem_filter.mp (Decorator.mem_of_mem_inLine hline)
  have htexts : y.texts = x.texts :=
    Decorator.texts_eq_iff.mpr ⟨congrArg TypeRef.text htype, beq_iff_eq.mp htarget⟩
  rwa [eq_of_mem_closeAll hy hx htexts] at hline

/-- A target has the same line of decorators whether all its pairings are in it or those that are
    kept. -/
theorem inLine_filter_closeAll (hapart : TextsTellApart decorators interfaces)
    (hlowest : MeetsLowestFirst decorators interfaces) (text : String) :
    Decorator.inLine ((closeAll decorators interfaces).filter (·.target.text == text)) =
      Decorator.inLine ((pairings decorators interfaces).filter (·.target.text == text)) := by
  have hpaired : ∀ {x}, x ∈ (pairings decorators interfaces).filter (·.target.text == text) →
      x ∈ pairings decorators interfaces ∧ x.target.text = text := by
    intro x hx
    rwa [List.mem_filter, beq_iff_eq] at hx
  apply Decorator.inLine_eq_of_mem_iff
  · intro x
    refine ⟨fun hline => ?_, fun hline => ?_⟩
    · obtain ⟨hx, htext⟩ := List.mem_filter.mp (Decorator.mem_of_mem_inLine hline)
      rw [← beq_iff_eq.mp htext]
      exact mem_inLine_pairings hapart hlowest hx
    · -- The one that is kept in its stead stands in the same line, so it is the same
      obtain ⟨hx, rfl⟩ := hpaired (Decorator.mem_of_mem_inLine hline)
      obtain ⟨y, hy, htexts⟩ := List.exists_mem_distinctOn Decorator.texts hx
      rw [← closeAll_eq] at hy
      have htype : y.type = x.type := hapart y (mem_pairings_of_mem_closeAll hy) x hx htexts
      have htarget : y.target.text = x.target.text := (Decorator.texts_eq_iff.mp htexts).2
      have hyline := mem_inLine_pairings hapart hlowest hy
      rw [htarget] at hyline
      obtain rfl := List.inj_on_of_nodup_map Decorator.nodup_map_type_inLine hyline hline htype
      exact mem_inLine_closeAll hy
  · intro x hx y hy htext
    obtain ⟨hx, hxtarget⟩ := hpaired (Decorator.mem_of_mem_inLine hx)
    obtain ⟨hy, hytarget⟩ := hpaired (Decorator.mem_of_mem_inLine hy)
    have htexts : x.texts = y.texts :=
      Decorator.texts_eq_iff.mpr ⟨htext, hxtarget.trans hytarget.symm⟩
    exact hapart x hx y hy htexts

/-- The pairings that are not kept make no difference to the chains exactly if they are told apart
    by their texts and met with the lowest first. -/
theorem compose_closeAll_eq_iff :
    Chain.compose (closeAll decorators interfaces) services =
        Chain.compose (pairings decorators interfaces) services ↔
      TextsTellApart decorators interfaces ∧ MeetsLowestFirst decorators interfaces := by
  refine ⟨fun h => ⟨?_, ?_⟩, ?_⟩
  · -- Each pairing has its type in a chain, so a decorator of its type is kept
    have hstands : ∀ x ∈ pairings decorators interfaces, ∃ d ∈ closeAll decorators interfaces,
        d.texts = x.texts ∧ d.type = x.type := by
      intro x hx
      obtain ⟨c, hc, htext, hinside⟩ := Chain.exists_mem_compose services hx
      rw [← h] at hc
      obtain ⟨d, hd, hdtarget, hdtype⟩ :=
        ((Chain.linearizes_of_mem_compose hc).decorated x.type).mp hinside
      have htexts : d.texts = x.texts :=
        Decorator.texts_eq_iff.mpr ⟨congrArg TypeRef.text hdtype, hdtarget.trans htext⟩
      exact ⟨d, hd, htexts, hdtype⟩
    intro x hx y hy htexts
    obtain ⟨d, hd, hdtexts, hdtype⟩ := hstands x hx
    obtain ⟨e, he, hetexts, hetype⟩ := hstands y hy
    have heq : d = e := eq_of_mem_closeAll hd he (hdtexts.trans (htexts.trans hetexts.symm))
    rw [← hdtype, ← hetype, heq]
  · rw [← hasLowestOrders_iff_meetsLowestFirst services]
    intro c hc
    rw [h] at hc
    exact hasLowestOrders_iff.mpr (Chain.linearizes_of_mem_compose hc).lowest
  · rintro ⟨hapart, hlowest⟩
    unfold Chain.compose
    rw [distinctOn_target_closeAll]
    apply List.map_congr_left
    intro target _
    unfold Chain.of
    rw [Decorator.layers_eq, Decorator.layers_eq, inLine_filter_closeAll hapart hlowest]

/-! ## Open decorators listed by their places -/

/-- The pairings of open decorators that are listed by their places come in the same order. -/
theorem pairwise_pairings (hnamed : ∀ o ∈ decorators, o.type.kind ≠ .typeParameter)
    (hplaces : decorators.Pairwise fun o o' => o.type.name = o'.type.name → o.order ≤ o'.order) :
    (pairings decorators interfaces).Pairwise fun x y => x.type = y.type → x.order ≤ y.order := by
  have hname : ∀ {o : OpenDecorator} {i x}, o ∈ decorators → o.closeOver i = some x →
      x.type.name = o.type.name := by
    intro o i x ho hclose
    obtain ⟨-, bindings, -, rfl⟩ := closeOver_eq_some_iff.mp hclose
    show (o.type.substitute bindings).name = o.type.name
    rw [TypeRef.substitute_of_kind_ne (hnamed o ho)]
  refine List.pairwise_flatMap.mpr ⟨fun o _ => ?_, ?_⟩
  · -- The pairings of one open decorator stand at one place
    apply List.pairwise_of_forall_mem_list
    intro x hx y hy _
    obtain ⟨i, -, hxclose⟩ := List.mem_filterMap.mp hx
    obtain ⟨j, -, hyclose⟩ := List.mem_filterMap.mp hy
    rw [order_of_closeOver hxclose, order_of_closeOver hyclose]
    exact Int32.le_refl _
  · refine hplaces.imp_of_mem fun {o o'} ho ho' hle => ?_
    intro x hx y hy htype
    obtain ⟨i, -, hxclose⟩ := List.mem_filterMap.mp hx
    obtain ⟨j, -, hyclose⟩ := List.mem_filterMap.mp hy
    rw [order_of_closeOver hxclose, order_of_closeOver hyclose]
    apply hle
    rw [← hname ho hxclose, ← hname ho' hyclose, htype]

theorem meetsLowestFirst_of_pairwise (hnamed : ∀ o ∈ decorators, o.type.kind ≠ .typeParameter)
    (hplaces : decorators.Pairwise fun o o' => o.type.name = o'.type.name → o.order ≤ o'.order) :
    MeetsLowestFirst decorators interfaces := by
  intro y hy x hfind htype
  obtain ⟨hx, htexts⟩ := mem_closeAll_of_find? hfind
  rw [closeAll_eq] at hx
  rcases (pairwise_pairings hnamed hplaces).rel_of_mem_distinctOn hx hy htexts.symm with rfl | hle
  · exact Int32.le_refl _
  · exact hle htype

/-- Layers of open decorators that are closed over interfaces have the lowest of their orders exactly
    if the pairings are met with the lowest first, as they are where the open decorators of one name
    are listed by their places. The chains are those of all pairings exactly if, besides, the texts
    tell the pairings apart. -/
theorem closeAll_keeps_lowest_iff (decorators : List OpenDecorator) (interfaces : List TypeRef)
    (services : List Service) :
    ((∀ c ∈ Chain.compose (closeAll decorators interfaces) services,
        c.HasLowestOrders decorators interfaces) ↔
      MeetsLowestFirst decorators interfaces) ∧
    (Chain.compose (closeAll decorators interfaces) services =
        Chain.compose (pairings decorators interfaces) services ↔
      TextsTellApart decorators interfaces ∧ MeetsLowestFirst decorators interfaces) ∧
    ((∀ o ∈ decorators, o.type.kind ≠ .typeParameter) →
      decorators.Pairwise (fun o o' => o.type.name = o'.type.name → o.order ≤ o'.order) →
        MeetsLowestFirst decorators interfaces) :=
  ⟨hasLowestOrders_iff_meetsLowestFirst services, compose_closeAll_eq_iff,
    meetsLowestFirst_of_pairwise⟩

end OpenDecorator

/-- A generic type that asks for all handlers at two places, the higher one first. -/
def Declaration.twiceWrapper : Declaration :=
  (handlerWrapper (.handlerOf (.parameter "T"))
    (.openDecoratorFor (.handlerOf (.parameter "T")) 5)).withMarker
      (.openDecoratorFor (.handlerOf (.parameter "T")) 1)

/-- The wrapper of the handlers of orders, at one of its places. -/
def Decorator.wrapper (place : Int32) : Decorator where
  type := (TypeRef.ofClass "App.Wrapper").withArg (.ofClass "App.Order")
  target := .handlerOf (.ofClass "App.Order")
  order := place
  moduleName := "App"
  construction := ⟨0, [⟨"inner", .handlerOf (.ofClass "App.Order"), .inner⟩]⟩
  synthesized := true

namespace OpenDecorator

/-- Two places of one decorator that are listed in order. -/
theorem wrappers_keep_lowest :
    (∀ o ∈ [ofHandlers "App.Wrapper" 1, ofHandlers "App.Wrapper" 5],
      o.type.kind ≠ .typeParameter) ∧
    [ofHandlers "App.Wrapper" 1, ofHandlers "App.Wrapper" 5].Pairwise
      (fun o o' => o.type.name = o'.type.name → o.order ≤ o'.order) ∧
    ∀ c ∈ Chain.compose (closeAll [ofHandlers "App.Wrapper" 1, ofHandlers "App.Wrapper" 5]
        [.handlerOf (.ofClass "App.Order")]) [],
      c.HasLowestOrders [ofHandlers "App.Wrapper" 1, ofHandlers "App.Wrapper" 5]
        [.handlerOf (.ofClass "App.Order")] := by
  have hnamed : ∀ o ∈ [ofHandlers "App.Wrapper" 1, ofHandlers "App.Wrapper" 5],
      o.type.kind ≠ .typeParameter := by decide
  have hplaces : [ofHandlers "App.Wrapper" 1, ofHandlers "App.Wrapper" 5].Pairwise
      (fun o o' => o.type.name = o'.type.name → o.order ≤ o'.order) := by decide
  obtain ⟨hiff, -, hsufficient⟩ := closeAll_keeps_lowest_iff
    [ofHandlers "App.Wrapper" 1, ofHandlers "App.Wrapper" 5] [.handlerOf (.ofClass "App.Order")] []
  exact ⟨hnamed, hplaces, hiff.mpr (hsufficient hnamed hplaces)⟩

/-- The same places the other way round, as a survey finds them: the decorator stands at the higher
    one. -/
theorem wrappers_keep_higher :
    ((Graph.handlerShop .twiceWrapper).validate = .ok () ∧
      (Survey.mk (Graph.handlerShop .twiceWrapper) {}).allFindings.openDecorators =
        [ofHandlers "App.Wrapper" 5, ofHandlers "App.Wrapper" 1] ∧
      ∃ p, (Graph.handlerShop .twiceWrapper).plan {} = .ok p ∧
        p.chains.flatMap (fun c => c.layers.map (·.order)) = [5]) ∧
    ¬ ∀ c ∈ Chain.compose (closeAll [ofHandlers "App.Wrapper" 5, ofHandlers "App.Wrapper" 1]
        [.handlerOf (.ofClass "App.Order")]) [],
      c.HasLowestOrders [ofHandlers "App.Wrapper" 5, ofHandlers "App.Wrapper" 1]
        [.handlerOf (.ofClass "App.Order")] := by
  refine ⟨⟨by decide, ?_, _, Graph.plan_eq_ok (by decide) {}, ?_⟩, ?_⟩
  · decide +kernel
  · decide +kernel
  · rw [hasLowestOrders_iff_meetsLowestFirst []]
    intro h
    have hpairings : pairings [ofHandlers "App.Wrapper" 5, ofHandlers "App.Wrapper" 1]
        [.handlerOf (.ofClass "App.Order")] = [.wrapper 5, .wrapper 1] := by
      decide +kernel
    unfold MeetsLowestFirst at h
    rw [hpairings] at h
    have hle := h (.wrapper 1) (.tail _ (.head _)) (.wrapper 5) (by decide +kernel) rfl
    exact absurd hle (by decide)

end OpenDecorator
end Wiring
