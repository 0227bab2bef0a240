/-
  Wiring.Proofs.Listing.Distinct

  Keeping the first element of each key: the keys that remain are the keys of the list without
  their later repetitions, and no two of them are equal. The element that is kept is the one that a
  search for its key finds; in a list that is in order it comes before all others of its key. Where
  each key is used once, a search finds the same element in any order of the list.
-/

import Wiring.Listing.Distinct
import Mathlib.Data.List.Nodup

namespace List

variable {α κ : Type}

/-- The keys kept besides those already seen are the other keys, each once. -/
theorem map_distinctOnFrom [BEq κ] [LawfulBEq κ] (key : α → κ) (seen : List κ) (xs : List α) :
    (distinctOnFrom key seen xs).map key =
      ((xs.map key).filter fun k => !seen.contains k).eraseDups := by
  induction xs generalizing seen with
  | nil => rfl
  | cons x rest ih =>
      unfold distinctOnFrom
      rw [map_cons, filter_cons]
      split
      · rename_i hseen
        rw [hseen, Bool.not_true, if_neg Bool.false_ne_true]
        exact ih seen
      · rename_i hnew
        rw [Bool.not_eq_true] at hnew
        rw [hnew, Bool.not_false, if_pos rfl, map_cons, ih, eraseDups_cons, filter_filter]
        congr 2
        apply filter_congr
        intro k _
        rw [contains_cons, Bool.not_or]

/-- The keys kept are the keys of the list, each once, in the order of their first use. -/
theorem map_distinctOn [BEq κ] [LawfulBEq κ] (key : α → κ) (xs : List α) :
    (xs.distinctOn key).map key = (xs.map key).eraseDups := by
  rw [distinctOn, map_distinctOnFrom]
  congr 1
  exact filter_eq_self.mpr fun _ _ => rfl

theorem distinctOnFrom_sublist [BEq κ] (key : α → κ) (seen : List κ) (xs : List α) :
    (distinctOnFrom key seen xs).Sublist xs := by
  induction xs generalizing seen with
  | nil => exact .slnil
  | cons x rest ih =>
      unfold distinctOnFrom
      split
      · exact (ih seen).cons x
      · exact (ih _).cons_cons x

theorem distinctOn_sublist [BEq κ] (key : α → κ) (xs : List α) : (xs.distinctOn key).Sublist xs :=
  distinctOnFrom_sublist key [] xs

/-- The keys kept differ from those already seen and from each other. -/
theorem nodup_map_distinctOnFrom [BEq κ] [LawfulBEq κ] (key : α → κ) (seen : List κ)
    (xs : List α) :
    ((distinctOnFrom key seen xs).map key).Nodup ∧
      ∀ x ∈ distinctOnFrom key seen xs, key x ∉ seen := by
  induction xs generalizing seen with
  | nil => exact ⟨.nil, nofun⟩
  | cons x rest ih =>
      unfold distinctOnFrom
      split
      · exact ih seen
      · rename_i hnew
        rw [contains_iff_mem] at hnew
        obtain ⟨hnodup, hfresh⟩ := ih (key x :: seen)
        refine ⟨?_, ?_⟩
        · rw [map_cons, nodup_cons]
          refine ⟨fun hmem => ?_, hnodup⟩
          obtain ⟨y, hy, hkey⟩ := mem_map.mp hmem
          exact hfresh y hy (hkey ▸ mem_cons_self ..)
        · intro y hy
          rcases mem_cons.mp hy with rfl | hy
          · exact hnew
          · exact fun hseen => hfresh y hy (mem_cons_of_mem _ hseen)

/-- No two elements that are kept have the same key. -/
theorem nodup_map_distinctOn [BEq κ] [LawfulBEq κ] (key : α → κ) (xs : List α) :
    ((xs.distinctOn key).map key).Nodup :=
  (nodup_map_distinctOnFrom key [] xs).1

/-! ## The first of each key -/

/-- An element is kept besides those already seen if its key is new and no element before it has
    the key. -/
theorem mem_distinctOnFrom_iff [BEq κ] [LawfulBEq κ] {key : α → κ} {seen : List κ} {xs : List α}
    {x : α} :
    x ∈ distinctOnFrom key seen xs ↔
      key x ∉ seen ∧ xs.find? (fun y => key y == key x) = some x := by
  induction xs generalizing seen with
  | nil => simp [distinctOnFrom]
  | cons a rest ih =>
      unfold distinctOnFrom
      by_cases hkey : key a = key x
      · -- The head has the key, so it is the element or hides it
        have hfound : (a :: rest).find? (fun y => key y == key x) = some a :=
          find?_cons_of_pos (by simpa using hkey)
        rw [hfound, Option.some.injEq]
        split
        · rename_i hseen
          rw [contains_iff_mem] at hseen
          rw [ih]
          exact ⟨fun h => absurd (hkey ▸ hseen) h.1, fun h => absurd (hkey ▸ hseen) h.1⟩
        · rename_i hnew
          rw [contains_iff_mem] at hnew
          rw [mem_cons, ih]
          refine ⟨?_, fun h => .inl h.2.symm⟩
          rintro (rfl | ⟨hfresh, -⟩)
          · exact ⟨hnew, rfl⟩
          · exact absurd (hkey ▸ mem_cons_self ..) hfresh
      · -- The head has another key, and the search goes on behind it
        have hpast : (a :: rest).find? (fun y => key y == key x) =
            rest.find? (fun y => key y == key x) :=
          find?_cons_of_neg (by simpa using hkey)
        rw [hpast]
        split
        · exact ih
        · have hne : x ≠ a := fun heq => hkey (heq ▸ rfl)
          have hother : key x ≠ key a := fun heq => hkey heq.symm
          rw [mem_cons, ih, mem_cons, or_iff_right hne, not_or]
          exact and_congr_left' (and_iff_right hother)

/-- An element is kept if it is the one that a search for its key finds. -/
theorem mem_distinctOn_iff [BEq κ] [LawfulBEq κ] {key : α → κ} {xs : List α} {x : α} :
    x ∈ xs.distinctOn key ↔ xs.find? (fun y => key y == key x) = some x := by
  rw [distinctOn, mem_distinctOnFrom_iff]
  exact and_iff_right not_mem_nil

/-- Of every element one with the same key is kept. -/
theorem exists_mem_distinctOn [BEq κ] [LawfulBEq κ] (key : α → κ) {xs : List α} {y : α}
    (hy : y ∈ xs) : ∃ x ∈ xs.distinctOn key, key x = key y := by
  have hkey : key y ∈ (xs.distinctOn key).map key := by
    rw [map_distinctOn, mem_eraseDups]
    exact mem_map_of_mem hy
  exact mem_map.mp hkey

/-- Once elements are kept by their keys, keeping them by what the keys are sent to makes no
    difference to keeping them so right away. -/
theorem distinctOnFrom_distinctOnFrom {κ' : Type} [BEq κ] [LawfulBEq κ] [BEq κ'] [LawfulBEq κ']
    {key : α → κ} {f : κ → κ'} {seen : List κ'} {seenKeys : List κ} {xs : List α}
    (hseen : ∀ k ∈ seenKeys, f k ∈ seen) :
    distinctOnFrom (f ∘ key) seen (distinctOnFrom key seenKeys xs) =
      distinctOnFrom (f ∘ key) seen xs := by
  induction xs generalizing seen seenKeys with
  | nil => rfl
  | cons a rest ih =>
      rw [distinctOnFrom, distinctOnFrom.eq_2 (f ∘ key)]
      split
      · rename_i hold
        rw [contains_iff_mem] at hold
        have hmet : seen.contains ((f ∘ key) a) = true := contains_iff_mem.mpr (hseen (key a) hold)
        rw [if_pos hmet, ih hseen]
      · rw [distinctOnFrom]
        split
        · rename_i hold
          rw [Function.comp_apply, contains_iff_mem] at hold
          refine ih fun k hk => ?_
          rcases mem_cons.mp hk with rfl | hk
          · exact hold
          · exact hseen k hk
        · rw [ih fun k hk => ?_]
          rcases mem_cons.mp hk with rfl | hk
          · exact mem_cons_self ..
          · exact mem_cons_of_mem _ (hseen k hk)

theorem distinctOn_distinctOn {κ' : Type} [BEq κ] [LawfulBEq κ] [BEq κ'] [LawfulBEq κ']
    (key : α → κ) (f : κ → κ') (xs : List α) :
    (xs.distinctOn key).distinctOn (f ∘ key) = xs.distinctOn (f ∘ key) :=
  distinctOnFrom_distinctOnFrom nofun

theorem distinctOnFrom_map {β : Type} [BEq κ] (f : α → β) (key : β → κ) (seen : List κ)
    (xs : List α) :
    distinctOnFrom key seen (xs.map f) = (distinctOnFrom (key ∘ f) seen xs).map f := by
  induction xs generalizing seen with
  | nil => rfl
  | cons a rest ih =>
      rw [map_cons, distinctOnFrom, distinctOnFrom, Function.comp_apply]
      split
      · exact ih seen
      · rw [map_cons, ih]

theorem distinctOn_map {β : Type} [BEq κ] (f : α → β) (key : β → κ) (xs : List α) :
    (xs.map f).distinctOn key = (xs.distinctOn (key ∘ f)).map f :=
  distinctOnFrom_map f key [] xs

/-- In a list in order, the element that is kept comes before all others of its key. -/
theorem Pairwise.rel_of_mem_distinctOn [BEq κ] [LawfulBEq κ] {R : α → α → Prop} {key : α → κ}
    {xs : List α} {x y : α} (hordered : xs.Pairwise R) (hx : x ∈ xs.distinctOn key)
    (hy : y ∈ xs) (hkey : key y = key x) : y = x ∨ R x y := by
  rw [mem_distinctOn_iff, find?_eq_some_iff_append] at hx
  obtain ⟨-, before, behind, rfl, hbefore⟩ := hx
  rcases mem_append.mp hy with hy | hy
  · -- No element before it has the key
    exact absurd (hbefore y hy) (by simp [hkey])
  · rcases mem_cons.mp hy with rfl | hy
    · exact .inl rfl
    · exact .inr ((pairwise_cons.mp (pairwise_append.mp hordered).2.1).1 y hy)

/-! ## Searching -/

/-- Where no two elements have the same key, one at most has a given key. -/
theorem eq_of_nodup_map [BEq κ] [LawfulBEq κ] {key : α → κ} {k : κ} {xs : List α}
    (hnodup : (xs.map key).Nodup) :
    ∀ a ∈ xs, ∀ b ∈ xs, (key a == k) = true → (key b == k) = true → a = b := by
  intro a ha b hb hakey hbkey
  refine inj_on_of_nodup_map hnodup ha hb ?_
  rw [eq_of_beq hakey, eq_of_beq hbkey]

/-- Of elements of which one at most qualifies, a search finds the one that is there. -/
theorem find?_eq_some_iff_of_unique {p : α → Bool} {xs : List α} {a : α}
    (hone : ∀ a ∈ xs, ∀ b ∈ xs, p a = true → p b = true → a = b) :
    xs.find? p = some a ↔ a ∈ xs ∧ p a = true := by
  refine ⟨fun h => ⟨mem_of_find?_eq_some h, find?_some h⟩, fun ⟨ha, hpa⟩ => ?_⟩
  obtain ⟨b, hb⟩ := Option.isSome_iff_exists.mp (find?_isSome.mpr ⟨a, ha, hpa⟩)
  rw [hb, hone a ha b (mem_of_find?_eq_some hb) hpa (find?_some hb)]

/-- Of elements of which one at most qualifies, a search finds the same one in any order. -/
theorem Perm.find?_eq {xs ys : List α} {p : α → Bool} (hperm : xs.Perm ys)
    (hone : ∀ a ∈ xs, ∀ b ∈ xs, p a = true → p b = true → a = b) : xs.find? p = ys.find? p := by
  ext a
  rw [find?_eq_some_iff_of_unique hone, find?_eq_some_iff_of_unique, hperm.mem_iff]
  exact fun a ha b hb => hone a (hperm.mem_iff.mpr ha) b (hperm.mem_iff.mpr hb)

end List
