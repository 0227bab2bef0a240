/-
  Wiring.Proofs.Text.Marks

  Texts in which marks tell where words end. A word without marks in front of a mark can be told
  from what follows it; and a word that starts with a mark is replaced where it stands and nowhere
  else, as what stands between marks is passed over.
-/

import Wiring.Text.Replace

namespace List

/-- Where words hold no mark and what follows them starts with one or is empty, words and rests can
    be read off together. -/
theorem append_inj_of_marks {α : Type} {isMark : α → Bool} {word word' rest rest' : List α}
    (hword : ∀ a ∈ word, isMark a = false) (hword' : ∀ a ∈ word', isMark a = false)
    (hrest : ∀ a ∈ rest.head?, isMark a = true) (hrest' : ∀ a ∈ rest'.head?, isMark a = true)
    (h : word ++ rest = word' ++ rest') : word = word' ∧ rest = rest' := by
  -- A word ends where the first mark stands
  have hends : ∀ {word rest : List α}, (∀ a ∈ word, isMark a = false) →
      (∀ a ∈ rest.head?, isMark a = true) →
      (word ++ rest).takeWhile (fun a => !isMark a) = word := by
    intro word rest hplain hmark
    rw [takeWhile_append_of_pos fun a ha => by rw [hplain a ha]; rfl]
    cases rest with
    | nil => exact append_nil word
    | cons a rest => simp [hmark a rfl]
  have hsame : word = word' := by
    rw [← hends hword hrest, h, hends hword' hrest']
  subst hsame
  exact ⟨rfl, append_cancel_left h⟩

end List

namespace Wiring.Text

/-- A mark is in neither of two texts exactly if it is not in them put together. -/
theorem not_mem_append_iff {mark : Char} {start text : String} :
    mark ∉ (start ++ text).toList ↔ mark ∉ start.toList ∧ mark ∉ text.toList := by
  rw [String.toList_append, List.mem_append, not_or]

/-! ## Replacing a word that starts with a mark -/

variable {mark : Char} {word by' : List Char}

/-- What holds no mark is passed over. -/
theorem replaceFrom_append_of_not_mem {xs : List Char} (h : mark ∉ xs) (rest : List Char) :
    replaceFrom (mark :: word) by' 0 (xs ++ rest) =
      xs ++ replaceFrom (mark :: word) by' 0 rest := by
  induction xs with
  | nil => rfl
  | cons c xs ih =>
      rw [List.mem_cons, not_or] at h
      have hother : (mark :: word).isPrefixOf (c :: (xs ++ rest)) = false := by
        rw [List.isPrefixOf_cons_cons, beq_false_of_ne h.1, Bool.false_and]
      rw [List.cons_append, replaceFrom, hother, if_neg Bool.false_ne_true, ih h.2,
        List.cons_append]

/-- What is left of a word that has been replaced is dropped. -/
theorem replaceFrom_length_append (word xs rest : List Char) :
    replaceFrom word by' xs.length (xs ++ rest) = replaceFrom word by' 0 rest := by
  induction xs with
  | nil => rfl
  | cons c xs ih => rw [List.length_cons, List.cons_append, replaceFrom, ih]

/-- The word is replaced. -/
theorem replaceFrom_word_append (rest : List Char) :
    replaceFrom (mark :: word) by' 0 (mark :: word ++ rest) =
      by' ++ replaceFrom (mark :: word) by' 0 rest := by
  have hfound : (mark :: word).isPrefixOf (mark :: (word ++ rest)) = true := by
    rw [List.isPrefixOf_iff_prefix]
    exact List.prefix_append (mark :: word) rest
  rw [List.cons_append, replaceFrom, hfound, if_pos rfl, List.length_cons, Nat.add_sub_cancel,
    replaceFrom_length_append]

/-- Something else that starts with the mark is passed over. -/
theorem replaceFrom_cons_of_not_prefix {xs rest : List Char} (h : mark ∉ xs)
    (hother : ¬ word <+: xs ++ rest) :
    replaceFrom (mark :: word) by' 0 (mark :: xs ++ rest) =
      mark :: xs ++ replaceFrom (mark :: word) by' 0 rest := by
  have hmissed : (mark :: word).isPrefixOf (mark :: (xs ++ rest)) = false := by
    rw [Bool.eq_false_iff, ne_eq, List.isPrefixOf_iff_prefix]
    intro hprefix
    exact hother (List.cons_prefix_cons.mp hprefix).2
  rw [List.cons_append, replaceFrom, hmissed, if_neg Bool.false_ne_true,
    replaceFrom_append_of_not_mem h, List.cons_append]

end Wiring.Text
