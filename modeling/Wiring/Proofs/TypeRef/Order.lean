/-
  Wiring.Proofs.TypeRef.Order

  The order of references is a total order that tells references apart, so the different references
  of a list in order are known once their set is known. Comparing goes through names, kinds,
  arguments and nullability one behind the other; three comparisons fit together as those of three
  elements do if their parts fit together.
-/

import Wiring.TypeRef.Order
import Wiring.Proofs.Listing.Sorted

open Std

/-! ## Comparisons of three elements -/

/-- The comparisons of `a` with `b`, of `b` with `c` and of `a` with `c` fit together: going up twice
    is going up, and an element that is not told apart may stand in for the other. -/
structure Ordering.Composes (ab bc ac : Ordering) : Prop where
  up : ab = .lt → bc = .lt → ac = .lt
  first_eq : ab = .eq → ac = bc
  last_eq : bc = .eq → ac = ab

namespace Ordering.Composes

theorem of_transCmp {α : Type} (cmp : α → α → Ordering) [TransCmp cmp] (a b c : α) :
    Composes (cmp a b) (cmp b c) (cmp a c) where
  up hab hbc := TransCmp.lt_trans hab hbc
  first_eq hab := TransCmp.congr_left hab
  last_eq hbc := (TransCmp.congr_right hbc).symm

/-- Comparisons by one part and then by another fit together if those of the parts do. -/
theorem next {ab bc ac ab' bc' ac' : Ordering} (h : Composes ab bc ac)
    (h' : Composes ab' bc' ac') : Composes (ab.then ab') (bc.then bc') (ac.then ac') where
  up hab hbc := by
    rw [Ordering.then_eq_lt] at hab hbc ⊢
    rcases hab with hab | ⟨hab, hab'⟩
    · -- Up by the first part, and the second step does not go down again
      rcases hbc with hbc | ⟨hbc, -⟩
      · exact .inl (h.up hab hbc)
      · exact .inl ((h.last_eq hbc).trans hab)
    · rw [h.first_eq hab]
      exact hbc.imp_right fun ⟨hbc, hbc'⟩ => ⟨hbc, h'.up hab' hbc'⟩
  first_eq hab := by
    rw [Ordering.then_eq_eq] at hab
    rw [h.first_eq hab.1, h'.first_eq hab.2]
  last_eq hbc := by
    rw [Ordering.then_eq_eq] at hbc
    rw [h.last_eq hbc.1, h'.last_eq hbc.2]

theorem isLE (h : Composes ab bc ac) (hab : ab.isLE = true) (hbc : bc.isLE = true) :
    ac.isLE = true := by
  rw [Ordering.isLE_iff_eq_lt_or_eq_eq] at hab hbc
  rcases hab with hab | hab
  · rcases hbc with hbc | hbc
    · rw [h.up hab hbc]
      rfl
    · rw [h.last_eq hbc, hab]
      rfl
  · rw [h.first_eq hab]
    exact Ordering.isLE_iff_eq_lt_or_eq_eq.mpr hbc

end Ordering.Composes

namespace Wiring

theorem TypeKind.eq_of_rank_eq {k k' : TypeKind} (h : k.rank = k'.rank) : k = k' := by
  cases k <;> cases k' <;> first | rfl | cases h

namespace TypeRef

/-! ## The order of references -/

mutual

/-- Comparing the other way round turns the outcome round. -/
theorem order_eq_swap : ∀ a b : TypeRef, order a b = (order b a).swap
  | ⟨name, kind, args, nullable⟩, ⟨name', kind', args', nullable'⟩ => by
    rw [order, order, Ordering.swap_then, Ordering.swap_then, Ordering.swap_then,
      ← orderAll_eq_swap args args', ← OrientedCmp.eq_swap, ← OrientedCmp.eq_swap,
      ← OrientedCmp.eq_swap]

theorem orderAll_eq_swap : ∀ as bs : List TypeRef, orderAll as bs = (orderAll bs as).swap
  | [], [] => rfl
  | [], _ :: _ => rfl
  | _ :: _, [] => rfl
  | a :: as, b :: bs => by
    rw [orderAll, orderAll, Ordering.swap_then, ← order_eq_swap a b, ← orderAll_eq_swap as bs]

end

mutual

theorem order_composes : ∀ a b c : TypeRef, Ordering.Composes (order a b) (order b c) (order a c)
  | ⟨name, kind, args, nullable⟩, ⟨name', kind', args', nullable'⟩,
      ⟨name'', kind'', args'', nullable''⟩ => by
    have hname := Ordering.Composes.of_transCmp compare name name' name''
    have hkind := Ordering.Composes.of_transCmp compare kind.rank kind'.rank kind''.rank
    have hnullable := Ordering.Composes.of_transCmp compare nullable nullable' nullable''
    rw [order, order, order]
    exact hname.next (hkind.next ((orderAll_composes args args' args'').next hnullable))

theorem orderAll_composes : ∀ as bs cs : List TypeRef,
    Ordering.Composes (orderAll as bs) (orderAll bs cs) (orderAll as cs)
  | [], [], [] => ⟨nofun, fun _ => rfl, fun _ => rfl⟩
  | [], [], _ :: _ => ⟨nofun, fun _ => rfl, nofun⟩
  | [], _ :: _, [] => ⟨nofun, nofun, nofun⟩
  | [], _ :: _, _ :: _ => ⟨fun _ _ => rfl, nofun, fun _ => rfl⟩
  | _ :: _, [], [] => ⟨nofun, nofun, fun _ => rfl⟩
  | _ :: _, [], _ :: _ => ⟨nofun, nofun, nofun⟩
  | _ :: _, _ :: _, [] => ⟨nofun, fun _ => rfl, nofun⟩
  | a :: as, b :: bs, c :: cs => by
    rw [orderAll, orderAll, orderAll]
    exact (order_composes a b c).next (orderAll_composes as bs cs)

end

mutual

theorem order_eq_eq_iff : ∀ a b : TypeRef, order a b = .eq ↔ a = b
  | ⟨name, kind, args, nullable⟩, ⟨name', kind', args', nullable'⟩ => by
    have hkind : kind.rank = kind'.rank ↔ kind = kind' :=
      ⟨TypeKind.eq_of_rank_eq, congrArg TypeKind.rank⟩
    rw [order, Ordering.then_eq_eq, Ordering.then_eq_eq, Ordering.then_eq_eq,
      Std.compare_eq_iff_eq, Std.compare_eq_iff_eq, Std.compare_eq_iff_eq, hkind,
      orderAll_eq_eq_iff args args', mk.injEq]

theorem orderAll_eq_eq_iff : ∀ as bs : List TypeRef, orderAll as bs = .eq ↔ as = bs
  | [], [] => by simp [orderAll]
  | [], _ :: _ => by simp [orderAll]
  | _ :: _, [] => by simp [orderAll]
  | a :: as, b :: bs => by
    rw [orderAll, Ordering.then_eq_eq, order_eq_eq_iff a b, orderAll_eq_eq_iff as bs,
      List.cons.injEq]

end

instance : TransCmp order where
  eq_swap := order_eq_swap _ _
  isLE_trans hab hbc := (order_composes _ _ _).isLE hab hbc

instance : LawfulEqCmp order where
  compare_self := (order_eq_eq_iff _ _).mpr rfl
  eq_of_compare h := (order_eq_eq_iff _ _).mp h

/-! ## The different references of a list -/

@[simp] theorem mem_distinct {ref : TypeRef} {refs : List TypeRef} :
    ref ∈ distinct refs ↔ ref ∈ refs :=
  List.mem_sortDistinct

/-- The different references depend on nothing but which references are given. -/
theorem distinct_eq_of_mem_iff {refs refs' : List TypeRef}
    (hmem : ∀ ref, ref ∈ refs ↔ ref ∈ refs') : distinct refs = distinct refs' :=
  List.sortDistinct_eq_of_mem_iff hmem

end TypeRef
end Wiring
