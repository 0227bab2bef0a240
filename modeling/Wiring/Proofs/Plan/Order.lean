/-
  Wiring.Proofs.Plan.Order

  The order of generation is a total order of places: it is transitive, and it tells places apart.
  So the modules of a build, which have different names, are planned in one order only. The order of
  bindings is transitive as well, but the bindings of one type need not be told apart.
-/

import Wiring.Plan.Basic
import Wiring.Proofs.Listing.Sorted

namespace Wiring.Placement

open Std

variable (current : String)

instance : TransCmp (order current) := by
  unfold order
  infer_instance

instance : LawfulEqCmp (order current) where
  eq_of_compare {p q} h := by
    simp only [order, compareLex_eq_eq, compareOn, Std.compare_eq_iff_eq] at h
    obtain ⟨-, hmodule, htype⟩ := h
    cases p
    cases q
    rw [mk.injEq]
    exact ⟨hmodule, htype⟩

instance {α : Type} (place : α → Placement) : TransCmp (orderOn current place) :=
  List.transCmp_on (order current) place

/-- Elements at different places are put into the same order however they are given. -/
theorem sortBy_orderOn_eq_of_perm {α : Type} {place : α → Placement} {xs ys : List α}
    (hperm : xs.Perm ys) (hnodup : (xs.map place).Nodup) :
    xs.sortBy (orderOn current place) = ys.sortBy (orderOn current place) := by
  refine List.sortBy_eq_of_perm hperm fun a ha b hb heq => ?_
  exact List.inj_on_of_nodup_map hnodup ha hb (LawfulEqCmp.eq_of_compare heq)

end Wiring.Placement

namespace Wiring.Binding

open Std

instance (current : String) : TransCmp (order current) := by
  unfold order
  infer_instance

/-- Bindings that are not told apart stand at the same place. -/
theorem placement_eq_of_order_eq {current : String} {a b : Binding}
    (h : order current a b = .eq) : a.placement = b.placement := by
  rw [order, compareLex_eq_eq] at h
  exact LawfulEqCmp.eq_of_compare h.1

end Wiring.Binding
