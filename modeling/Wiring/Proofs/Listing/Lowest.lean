/-
  Wiring.Proofs.Listing.Lowest

  Elements sorted by a place and then by a text, of which the first of each key is kept. Every key
  is left once, at the lowest of the places where it was, and what is left is still in order.
-/

import Wiring.Proofs.Listing.Distinct
import Wiring.Proofs.Listing.Sorted
import Mathlib.Order.Bounds.Defs

open Std

namespace List

variable {α κ : Type} {place : α → Int32} {text : α → String} {key : α → κ} {xs : List α} {a b : α}

/-- Compares by place, then by text. -/
def byPlace (place : α → Int32) (text : α → String) : α → α → Ordering :=
  compareLex (compareOn fun a => (place a).toInt) (compareOn text)

instance : TransCmp (byPlace place text) := by
  unfold byPlace
  infer_instance

theorem byPlace_isLE_iff :
    (byPlace place text a b).isLE = true ↔
      place a < place b ∨ place a = place b ∧ text a ≤ text b := by
  have hlt : compareOn (fun a => (place a).toInt) a b = .lt ↔ place a < place b :=
    Std.compare_eq_lt.trans Int32.lt_iff_toInt_lt.symm
  have heq : compareOn (fun a => (place a).toInt) a b = .eq ↔ place a = place b :=
    Std.compare_eq_iff_eq.trans Int32.toInt_inj
  have htext : (compareOn text a b).isLE = true ↔ text a ≤ text b := by
    rw [Ordering.isLE_iff_ne_gt, compareOn, OrientedCmp.gt_iff_lt]
    exact not_congr compareOfLessAndEq_eq_lt
  rw [byPlace, compareLex, Ordering.isLE_then_iff_or, hlt, heq, htext]

/-- The elements by place and then by text, the first of each key. -/
def lowestFirst [BEq κ] (place : α → Int32) (text : α → String) (key : α → κ) (xs : List α) :
    List α :=
  (xs.sortBy (byPlace place text)).distinctOn key

section Keys

variable [BEq κ]

theorem pairwise_lowestFirst :
    (xs.lowestFirst place text key).Pairwise fun a b =>
      place a < place b ∨ place a = place b ∧ text a ≤ text b := by
  have hsorted := pairwise_sortBy (byPlace place text) xs
  exact (hsorted.sublist (distinctOn_sublist key _)).imp byPlace_isLE_iff.mp

theorem mem_of_mem_lowestFirst (h : a ∈ xs.lowestFirst place text key) : a ∈ xs :=
  mem_sortBy.mp ((distinctOn_sublist key _).mem h)

variable [LawfulBEq κ]

theorem nodup_map_lowestFirst : ((xs.lowestFirst place text key).map key).Nodup :=
  nodup_map_distinctOn key _

/-- Every key is left, and no other. -/
theorem mem_map_lowestFirst_iff {k : κ} :
    k ∈ (xs.lowestFirst place text key).map key ↔ ∃ a ∈ xs, key a = k := by
  rw [lowestFirst, map_distinctOn, mem_eraseDups, mem_map]
  simp only [mem_sortBy]

/-- A key is left at the lowest place where it was. -/
theorem isLeast_of_mem_lowestFirst (h : a ∈ xs.lowestFirst place text key) :
    IsLeast {p | ∃ b ∈ xs, key b = key a ∧ place b = p} (place a) := by
  refine ⟨⟨a, mem_of_mem_lowestFirst h, rfl, rfl⟩, ?_⟩
  rintro _ ⟨b, hb, hkey, rfl⟩
  have hsorted := pairwise_sortBy (byPlace place text) xs
  rcases hsorted.rel_of_mem_distinctOn h (mem_sortBy.mpr hb) hkey with rfl | hbefore
  · exact Int32.le_refl _
  · rcases byPlace_isLE_iff.mp hbefore with hlt | ⟨heq, -⟩
    · exact Int32.le_of_lt hlt
    · exact heq ▸ Int32.le_refl _

end Keys

end List
