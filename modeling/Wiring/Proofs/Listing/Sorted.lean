/-
  Wiring.Proofs.Listing.Sorted

  What sorting keeps and what it establishes. `sortBy` permutes; with a comparison that is
  transitive its result is in order. Collapsing the runs of a list in order leaves every element
  once, so `sortDistinct` is the strictly increasing list of the elements given. Where a comparison
  tells the elements apart, the order in which they are given does not count.
-/

import Wiring.Listing.Distinct
import Mathlib.Data.List.Sort

open Std

namespace List

variable {α : Type}

/-! ## Sorting -/

/-- Comparing by a key is transitive if comparing the keys is. -/
theorem transCmp_on {κ : Type} (cmp : κ → κ → Ordering) [TransCmp cmp] (key : α → κ) :
    TransCmp fun a b => cmp (key a) (key b) where
  eq_swap := OrientedCmp.eq_swap
  isLE_trans := TransCmp.isLE_trans

theorem sortBy_perm (cmp : α → α → Ordering) (xs : List α) : (xs.sortBy cmp).Perm xs :=
  mergeSort_perm xs _

@[simp] theorem mem_sortBy {cmp : α → α → Ordering} {xs : List α} {a : α} :
    a ∈ xs.sortBy cmp ↔ a ∈ xs :=
  (sortBy_perm cmp xs).mem_iff

/-- Of two elements one comes first, or they are not told apart. -/
theorem isLE_or_isLE (cmp : α → α → Ordering) [OrientedCmp cmp] (a b : α) :
    ((cmp a b).isLE || (cmp b a).isLE) = true := by
  have hswap : cmp b a = (cmp a b).swap := OrientedCmp.eq_swap
  rw [hswap]
  cases cmp a b <;> rfl

/-- A sorted list is in order. -/
theorem pairwise_sortBy (cmp : α → α → Ordering) [TransCmp cmp] (xs : List α) :
    (xs.sortBy cmp).Pairwise fun a b => (cmp a b).isLE :=
  pairwise_mergeSort (fun _ _ _ => TransCmp.isLE_trans) (isLE_or_isLE cmp) xs

/-- Elements that a comparison tells apart are sorted the same in whatever order they are given. -/
theorem sortBy_eq_of_perm {cmp : α → α → Ordering} [TransCmp cmp] {xs ys : List α}
    (hperm : xs.Perm ys) (hinj : ∀ a ∈ xs, ∀ b ∈ xs, cmp a b = .eq → a = b) :
    xs.sortBy cmp = ys.sortBy cmp := by
  refine Perm.eq_of_pairwise (fun a b ha hb hab hba => ?_) (pairwise_sortBy cmp xs)
    (pairwise_sortBy cmp ys) ((sortBy_perm cmp xs).trans (hperm.trans (sortBy_perm cmp ys).symm))
  -- Each stands before the other, so the comparison does not tell them apart
  have heq : cmp a b = .eq := OrientedCmp.isLE_antisymm hab hba
  exact hinj a (mem_sortBy.mp ha) b (hperm.mem_iff.mpr (mem_sortBy.mp hb)) heq

/-! ## Elements that are not told apart -/

/-- Whether a comparison does not tell an element apart from `a`. -/
def ties (cmp : α → α → Ordering) (a b : α) : Bool := cmp a b == .eq

theorem ties_iff {cmp : α → α → Ordering} {a b : α} : ties cmp a b = true ↔ cmp a b = .eq :=
  beq_iff_eq

theorem eq_of_ties_of_ties {cmp : α → α → Ordering} [TransCmp cmp] {a b c : α}
    (hb : ties cmp a b = true) (hc : ties cmp a c = true) : cmp b c = .eq :=
  TransCmp.eq_trans (OrientedCmp.eq_symm (ties_iff.mp hb)) (ties_iff.mp hc)

/-- Sorting keeps elements that a comparison does not tell apart in the order given. -/
theorem filter_sortBy {cmp : α → α → Ordering} [TransCmp cmp] (xs : List α) {p : α → Bool}
    (hties : ∀ a b, p a = true → p b = true → cmp a b = .eq) :
    (xs.sortBy cmp).filter p = xs.filter p := by
  have hordered : (xs.filter p).Pairwise fun a b => (cmp a b).isLE := by
    refine pairwise_iff_forall_sublist.mpr fun {a b} hab => ?_
    have ha := (mem_filter.mp (hab.subset (mem_cons_self ..))).2
    have hb := (mem_filter.mp (hab.subset (mem_cons_of_mem _ (mem_cons_self ..)))).2
    rw [hties a b ha hb]
    rfl
  have hkept : (xs.filter p).Sublist (xs.sortBy cmp) :=
    sublist_mergeSort (fun _ _ _ => TransCmp.isLE_trans) (isLE_or_isLE cmp) hordered
      filter_sublist
  -- What is kept are the elements that `p` picks, and there are as many of them
  have hpicked : (xs.filter p).Sublist ((xs.sortBy cmp).filter p) := by
    have hsub := hkept.filter p
    rwa [filter_filter, filter_congr fun a _ => Bool.and_self (p a)] at hsub
  have hlength := ((sortBy_perm cmp xs).filter p).length_eq
  exact (hpicked.eq_of_length hlength.symm).symm

/-- A list in order is known by its elements and by the order of those that are not told apart. -/
theorem Pairwise.eq_of_filter_ties {cmp : α → α → Ordering} [TransCmp cmp] {xs ys : List α}
    (hxs : xs.Pairwise fun a b => (cmp a b).isLE) (hys : ys.Pairwise fun a b => (cmp a b).isLE)
    (hperm : xs.Perm ys) (hties : ∀ a, xs.filter (ties cmp a) = ys.filter (ties cmp a)) :
    xs = ys := by
  have hself : ∀ a, cmp a a = .eq := fun a => ReflCmp.compare_self
  -- The head of a list in order comes before all its elements
  have hfirst : ∀ {x a : α} {rest : List α},
      (x :: rest).Pairwise (fun a b => (cmp a b).isLE) → a ∈ x :: rest → (cmp x a).isLE := by
    intro x a rest hsorted ha
    rcases mem_cons.mp ha with rfl | ha
    · rw [hself a]
      rfl
    · exact (pairwise_cons.mp hsorted).1 a ha
  induction xs generalizing ys with
  | nil => exact hperm.nil_eq
  | cons x rest ih =>
      cases ys with
      | nil => exact absurd hperm.eq_nil (cons_ne_nil x rest)
      | cons y others =>
          have hx := hfirst hxs (hperm.mem_iff.mpr (mem_cons_self ..))
          have hy := hfirst hys (hperm.mem_iff.mp (mem_cons_self ..))
          have htie : cmp x y = .eq := OrientedCmp.isLE_antisymm hx hy
          -- So the heads are the first of the same elements not told apart
          have hheads := hties x
          rw [filter_cons_of_pos (ties_iff.mpr (hself x)),
            filter_cons_of_pos (ties_iff.mpr htie)] at hheads
          obtain ⟨rfl, -⟩ := cons_eq_cons.mp hheads
          rw [ih (pairwise_cons.mp hxs).2 (pairwise_cons.mp hys).2 hperm.cons_inv fun a => ?_]
          have htails := hties a
          rw [filter_cons, filter_cons] at htails
          split at htails
          · exact (cons_eq_cons.mp htails).2
          · exact htails

/-- Lists are sorted the same if they differ only in the order of elements that are told apart. -/
theorem sortBy_eq_of_filter_ties {cmp : α → α → Ordering} [TransCmp cmp] {xs ys : List α}
    (hperm : xs.Perm ys) (hties : ∀ a, xs.filter (ties cmp a) = ys.filter (ties cmp a)) :
    xs.sortBy cmp = ys.sortBy cmp := by
  refine (pairwise_sortBy cmp xs).eq_of_filter_ties (pairwise_sortBy cmp ys)
    ((sortBy_perm cmp xs).trans (hperm.trans (sortBy_perm cmp ys).symm)) fun a => ?_
  rw [filter_sortBy xs fun _ _ => eq_of_ties_of_ties, filter_sortBy ys fun _ _ => eq_of_ties_of_ties,
    hties a]

/-- Picking elements after sorting is picking them before. -/
theorem filter_sortBy_comm (cmp : α → α → Ordering) [TransCmp cmp] (p : α → Bool) (xs : List α) :
    (xs.sortBy cmp).filter p = (xs.filter p).sortBy cmp := by
  refine ((pairwise_sortBy cmp xs).filter p).eq_of_filter_ties (pairwise_sortBy cmp _)
    (((sortBy_perm cmp xs).filter p).trans (sortBy_perm cmp _).symm) fun a => ?_
  -- Elements that are not told apart stay in the order given, picked or not
  rw [filter_sortBy (xs.filter p) fun _ _ => eq_of_ties_of_ties, filter_comm,
    filter_sortBy xs fun _ _ => eq_of_ties_of_ties, filter_comm]

/-- An element that comes before all others stays in front of them. -/
theorem sortBy_cons (cmp : α → α → Ordering) [TransCmp cmp] {x : α} {rest : List α}
    (hfirst : ∀ y ∈ rest, (cmp x y).isLE = true) :
    (x :: rest).sortBy cmp = x :: rest.sortBy cmp := by
  obtain ⟨before, behind, hsort, hrest, hbefore⟩ :=
    mergeSort_cons (fun _ _ _ => TransCmp.isLE_trans) (isLE_or_isLE cmp) x rest
  -- Nothing that comes strictly before it is put in front
  have hnone : before = [] := by
    refine eq_nil_iff_forall_not_mem.mpr fun y hy => ?_
    have hmem : y ∈ rest.sortBy cmp := by
      rw [sortBy, hrest]
      exact mem_append_left _ hy
    have hless := hbefore y hy
    rw [hfirst y (mem_sortBy.mp hmem)] at hless
    cases hless
  rw [sortBy, sortBy, hsort, hrest, hnone]
  rfl

/-- What a search finds in a list it finds in the sorted list as well, if nothing else that it may
    find comes before it. -/
theorem find?_sortBy {cmp : α → α → Ordering} [TransCmp cmp] {p : α → Bool} {xs : List α} {x : α}
    (hfind : xs.find? p = some x) (hfirst : ∀ y ∈ xs, p y = true → (cmp x y).isLE = true) :
    (xs.sortBy cmp).find? p = some x := by
  rw [← head?_filter] at hfind ⊢
  obtain ⟨rest, hfound⟩ := head?_eq_some_iff.mp hfind
  rw [filter_sortBy_comm, hfound, sortBy_cons cmp fun y hy => ?_]
  · rfl
  · have hmem : y ∈ xs.filter p := hfound ▸ mem_cons_of_mem x hy
    exact hfirst y (mem_filter.mp hmem).1 (mem_filter.mp hmem).2

/-- Elements with different keys increase strictly once they are sorted by their keys. -/
theorem pairwise_lt_sortBy {κ : Type} (cmp : κ → κ → Ordering) [TransCmp cmp] [LawfulEqCmp cmp]
    {key : α → κ} {xs : List α} (hnodup : (xs.map key).Nodup) :
    (xs.sortBy fun a b => cmp (key a) (key b)).Pairwise fun a b => cmp (key a) (key b) = .lt := by
  have htrans := transCmp_on cmp key
  have hapart : ((xs.sortBy fun a b => cmp (key a) (key b)).map key).Nodup :=
    ((sortBy_perm _ xs).map key).nodup_iff.mpr hnodup
  have hsorted := pairwise_sortBy (fun a b => cmp (key a) (key b)) xs
  refine (hsorted.and (pairwise_map.mp hapart)).imp fun {a b} ⟨hle, hne⟩ => ?_
  cases hcmp : cmp (key a) (key b) with
  | lt => rfl
  | eq => exact absurd (LawfulEqCmp.eq_of_compare hcmp) hne
  | gt => simp [hcmp] at hle

/-- Sorting a second time changes nothing. -/
theorem sortBy_sortBy (cmp : α → α → Ordering) [TransCmp cmp] (xs : List α) :
    (xs.sortBy cmp).sortBy cmp = xs.sortBy cmp :=
  mergeSort_of_pairwise (pairwise_sortBy cmp xs)

/-- A list that increases strictly is what its elements are sorted to, however they are given. -/
theorem sortBy_eq_of_pairwise_lt (cmp : α → α → Ordering) [TransCmp cmp] {xs ys : List α}
    (hperm : xs.Perm ys) (hlt : ys.Pairwise fun a b => cmp a b = .lt) : xs.sortBy cmp = ys := by
  -- One of two elements stands behind the other, so the comparison tells them apart
  have hapart : ∀ a ∈ ys, ∀ b ∈ ys, cmp a b = .eq → a = b := by
    refine Pairwise.forall_of_forall_of_flip (fun _ _ _ => rfl) (hlt.imp ?_) (hlt.imp ?_)
    · intro a b hab heq
      exact absurd (hab.symm.trans heq) nofun
    · intro a b hab heq
      exact absurd (hab.symm.trans (OrientedCmp.eq_symm heq)) nofun
  have hsorted : ys.sortBy cmp = ys :=
    mergeSort_of_pairwise (hlt.imp fun hab => by rw [hab]; rfl)
  rw [← hsorted]
  exact sortBy_eq_of_perm hperm fun a ha b hb =>
    hapart a (hperm.mem_iff.mp ha) b (hperm.mem_iff.mp hb)

/-- Keys that increase strictly are those of the elements with these keys, sorted by key. -/
theorem map_sortBy_eq_of_pairwise_lt {κ : Type} (cmp : κ → κ → Ordering) [TransCmp cmp]
    {key : α → κ} {xs : List α} {keys : List κ} (hperm : (xs.map key).Perm keys)
    (hlt : keys.Pairwise fun k l => cmp k l = .lt) :
    (xs.sortBy fun a b => cmp (key a) (key b)).map key = keys := by
  have hkeys : (xs.sortBy fun a b => cmp (key a) (key b)).map key = (xs.map key).sortBy cmp :=
    map_mergeSort fun _ _ _ _ => rfl
  rw [hkeys, sortBy_eq_of_pairwise_lt cmp hperm hlt]

/-! ## Collapsing runs -/

theorem mem_dropRepeatsAfter [BEq α] [LawfulBEq α] {a last : α} {xs : List α} :
    a = last ∨ a ∈ xs.dropRepeatsAfter last ↔ a = last ∨ a ∈ xs := by
  induction xs generalizing last with
  | nil => rfl
  | cons x rest ih =>
      unfold dropRepeatsAfter
      split
      · rename_i heq
        rw [← eq_of_beq heq, ih, mem_cons, ← or_assoc, or_self]
      · rw [mem_cons, ih, mem_cons]

@[simp] theorem mem_dropRepeats [BEq α] [LawfulBEq α] {a : α} {xs : List α} :
    a ∈ xs.dropRepeats ↔ a ∈ xs := by
  cases xs with
  | nil => rfl
  | cons x rest => rw [dropRepeats, mem_cons, mem_dropRepeatsAfter, mem_cons]

theorem dropRepeatsAfter_sublist [BEq α] (last : α) (xs : List α) :
    (xs.dropRepeatsAfter last).Sublist xs := by
  induction xs generalizing last with
  | nil => exact .slnil
  | cons x rest ih =>
      unfold dropRepeatsAfter
      split
      · exact (ih last).cons x
      · exact (ih x).cons_cons x

theorem dropRepeats_sublist [BEq α] (xs : List α) : xs.dropRepeats.Sublist xs := by
  cases xs with
  | nil => exact .slnil
  | cons x rest => exact (dropRepeatsAfter_sublist x rest).cons_cons x

/-- What remains of a list in order increases strictly, from the element kept before it on. -/
theorem pairwise_dropRepeatsAfter [BEq α] [LawfulBEq α] {cmp : α → α → Ordering} [TransCmp cmp]
    [LawfulEqCmp cmp] {last : α} {xs : List α}
    (hsorted : (last :: xs).Pairwise fun a b => (cmp a b).isLE) :
    (last :: xs.dropRepeatsAfter last).Pairwise fun a b => cmp a b = .lt := by
  induction xs generalizing last with
  | nil => exact pairwise_singleton ..
  | cons x rest ih =>
      obtain ⟨hlast, hrest⟩ := pairwise_cons.mp hsorted
      unfold dropRepeatsAfter
      split
      · rename_i heq
        exact eq_of_beq heq ▸ ih hrest
      · rename_i hne
        have hlt : cmp last x = .lt := by
          have hle := hlast x (mem_cons_self ..)
          cases hcmp : cmp last x with
          | lt => rfl
          | eq => exact absurd (beq_iff_eq.mpr (LawfulEqCmp.eq_of_compare hcmp)) hne
          | gt => simp [hcmp] at hle
        have hkept := ih hrest
        refine pairwise_cons.mpr ⟨fun a ha => ?_, hkept⟩
        rcases mem_cons.mp ha with rfl | ha
        · exact hlt
        · exact TransCmp.lt_trans hlt ((pairwise_cons.mp hkept).1 a ha)

/-! ## Sorting without repetition -/

@[simp] theorem mem_sortDistinct [BEq α] [LawfulBEq α] {cmp : α → α → Ordering} {a : α}
    {xs : List α} : a ∈ xs.sortDistinct cmp ↔ a ∈ xs := by
  rw [sortDistinct, mem_dropRepeats, mem_sortBy]

/-- Sorting without repetition keeps the elements of a kind that occur once each as they are, up to
    their order. -/
theorem filter_sortDistinct_perm [BEq α] [LawfulBEq α] (cmp : α → α → Ordering) (p : α → Bool)
    {xs : List α} (hnodup : (xs.filter p).Nodup) :
    ((xs.sortDistinct cmp).filter p).Perm (xs.filter p) := by
  have hsorted : ((xs.sortBy cmp).filter p).Nodup :=
    ((sortBy_perm cmp xs).filter p).nodup_iff.mpr hnodup
  have hkept : ((xs.sortDistinct cmp).filter p).Nodup :=
    hsorted.sublist ((dropRepeats_sublist _).filter p)
  refine (perm_ext_iff_of_nodup hkept hnodup).mpr fun a => ?_
  rw [mem_filter, mem_filter, mem_sortDistinct]

/-- The elements of a list without repetition increase strictly. -/
theorem pairwise_sortDistinct [BEq α] [LawfulBEq α] (cmp : α → α → Ordering) [TransCmp cmp]
    [LawfulEqCmp cmp] (xs : List α) : (xs.sortDistinct cmp).Pairwise fun a b => cmp a b = .lt := by
  unfold sortDistinct dropRepeats
  cases hsort : xs.sortBy cmp with
  | nil => exact .nil
  | cons x rest =>
      exact pairwise_dropRepeatsAfter (hsort ▸ pairwise_sortBy cmp xs)

/-- No element comes strictly before itself. -/
theorem irrefl_lt (cmp : α → α → Ordering) [ReflCmp cmp] : Irrefl fun a b => cmp a b = .lt where
  irrefl a hlt := by
    have hself : cmp a a = .eq := ReflCmp.compare_self
    exact absurd (hself.symm.trans hlt) nofun

/-- No two elements come strictly before each other. -/
theorem antisymm_lt (cmp : α → α → Ordering) [TransCmp cmp] :
    Antisymm fun a b => cmp a b = .lt where
  antisymm a _ hab hba := absurd (TransCmp.lt_trans hab hba) ((irrefl_lt cmp).irrefl a)

/-- Standing before another by a comparison that tells elements apart is a strict total order. -/
theorem isStrictTotalOrder_of_lt_iff {r : α → α → Prop} (cmp : α → α → Ordering) [TransCmp cmp]
    [LawfulEqCmp cmp] (hlt : ∀ a b, cmp a b = .lt ↔ r a b) : IsStrictTotalOrder α r where
  irrefl a h := (irrefl_lt cmp).irrefl a ((hlt a a).mpr h)
  trans a b c hab hbc :=
    (hlt a c).mp (TransCmp.lt_trans ((hlt a b).mpr hab) ((hlt b c).mpr hbc))
  trichotomous a b hab hba := by
    rw [← hlt] at hab hba
    have hswap : cmp b a = (cmp a b).swap := OrientedCmp.eq_swap
    cases hcmp : cmp a b with
    | lt => exact absurd hcmp hab
    | eq => exact LawfulEqCmp.eq_of_compare hcmp
    | gt => exact absurd (hswap.trans (congrArg Ordering.swap hcmp)) hba

/-- A list that increases strictly is what its elements are sorted to without repetition. -/
theorem sortDistinct_eq_of_pairwise_lt [BEq α] [LawfulBEq α] (cmp : α → α → Ordering)
    [TransCmp cmp] [LawfulEqCmp cmp] {xs ys : List α} (hmem : ∀ a, a ∈ xs ↔ a ∈ ys)
    (hlt : ys.Pairwise fun a b => cmp a b = .lt) : xs.sortDistinct cmp = ys := by
  have := irrefl_lt cmp
  have := antisymm_lt cmp
  refine (pairwise_sortDistinct cmp xs).eq_of_mem_iff hlt fun a => ?_
  rw [mem_sortDistinct, hmem]

/-- The list without repetition of the elements given depends on nothing but which these are. -/
theorem sortDistinct_eq_of_mem_iff [BEq α] [LawfulBEq α] {cmp : α → α → Ordering} [TransCmp cmp]
    [LawfulEqCmp cmp] {xs ys : List α} (hmem : ∀ a, a ∈ xs ↔ a ∈ ys) :
    xs.sortDistinct cmp = ys.sortDistinct cmp := by
  refine sortDistinct_eq_of_pairwise_lt cmp (fun a => ?_) (pairwise_sortDistinct cmp ys)
  rw [mem_sortDistinct, hmem]

/-- Sorting without repetition a second time changes nothing. -/
theorem sortDistinct_sortDistinct [BEq α] [LawfulBEq α] (cmp : α → α → Ordering) [TransCmp cmp]
    [LawfulEqCmp cmp] (xs : List α) : (xs.sortDistinct cmp).sortDistinct cmp = xs.sortDistinct cmp :=
  sortDistinct_eq_of_mem_iff fun _ => mem_sortDistinct

/-- Picking elements after sorting without repetition is picking them before. -/
theorem filter_sortDistinct [BEq α] [LawfulBEq α] (cmp : α → α → Ordering) [TransCmp cmp]
    [LawfulEqCmp cmp] (p : α → Bool) (xs : List α) :
    (xs.sortDistinct cmp).filter p = (xs.filter p).sortDistinct cmp := by
  refine (sortDistinct_eq_of_pairwise_lt cmp (fun a => ?_)
    ((pairwise_sortDistinct cmp xs).filter p)).symm
  rw [mem_filter, mem_filter, mem_sortDistinct]

end List
