/-
  Wiring.Proofs.Text.Comment

  Texts without their comments. A text is cut at its line feeds, and the lines that begin as a
  comment are left out. What is left of a text that is made line by line is known by the code of the
  lines given: each of them may hold line feeds of its own, and then it is several lines.
-/

import Wiring.Text.Replace

namespace List

variable {α : Type}

/-- The parts of a list between its marks hold no mark. -/
theorem not_mem_of_mem_splitOn [BEq α] [LawfulBEq α] {a : α} {xs part : List α}
    (h : part ∈ xs.splitOn a) : a ∉ part := by
  induction xs generalizing part with
  | nil =>
      rw [splitOn_nil, mem_singleton] at h
      exact h ▸ not_mem_nil
  | cons x rest ih =>
      rw [splitOn_cons_eq_if_modifyHead] at h
      split at h
      · rcases mem_cons.mp h with rfl | h
        · exact not_mem_nil
        · exact ih h
      · -- The first part takes in an element that is no mark
        rename_i hx
        cases hparts : rest.splitOn a with
        | nil => exact (splitOn_ne_nil a rest hparts).elim
        | cons first others =>
            rw [hparts, modifyHead_cons] at h
            rw [hparts] at ih
            rcases mem_cons.mp h with rfl | h
            · refine fun hmem => ?_
              rcases mem_cons.mp hmem with rfl | hmem
              · exact hx (beq_self_eq_true _)
              · exact ih (mem_cons_self ..) hmem
            · exact ih (mem_cons_of_mem _ h)

end List

namespace Wiring.Text

/-! ## Lines and comments -/

/-- The lines of a text, the last of which is what stands behind the last line feed. -/
def rows (text : String) : List (List Char) := text.toList.splitOn '\n'

/-- Whether the first characters of a line that are no spaces are two slashes. -/
def isComment (row : List Char) : Bool := ['/', '/'].isPrefixOf (row.dropWhile (· = ' '))

/-- The lines of a text that are no comments. -/
def codeRows (text : String) : List (List Char) := (rows text).filter fun row => !isComment row

/-- A text without the lines that are comments. -/
def withoutComments (text : String) : String :=
  String.ofList (['\n'].intercalate (codeRows text))

/-- Behind the start of a comment, a text brings in no line that is none. -/
def StaysInComment (text : String) : Prop := ∀ row ∈ (rows text).tail, isComment row = true

/-! ## Texts of several lines -/

theorem rows_append_lineFeed (text rest : String) :
    rows (text ++ "\n" ++ rest) = rows text ++ rows rest := by
  unfold rows
  rw [String.toList_append, String.toList_append, List.append_assoc]
  exact List.splitOn_append_cons_self ..

theorem rows_of_oneLine {text : String} (h : '\n' ∉ text.toList) : rows text = [text.toList] :=
  List.splitOn_eq_singleton h

/-- A text without line feeds goes before the first line. -/
theorem rows_append {start : String} (h : '\n' ∉ start.toList) (text : String) :
    rows (start ++ text) = (rows text).modifyHead (start.toList ++ ·) := by
  unfold rows
  rw [String.toList_append]
  generalize start.toList = cs at h ⊢
  induction cs with
  | nil => exact (congrFun List.modifyHead_id _).symm
  | cons c rest ih =>
      rw [List.mem_cons, not_or] at h
      have hc : (c == '\n') = false := beq_eq_false_iff_ne.mpr (Ne.symm h.1)
      rw [List.cons_append, List.splitOn_cons_eq_if_modifyHead, hc, if_neg Bool.false_ne_true,
        ih h.2, List.modifyHead_modifyHead]
      rfl

theorem rows_ne_nil (text : String) : rows text ≠ [] := List.splitOn_ne_nil _ _

theorem unlines_cons (text : String) (lines : List String) :
    unlines (text :: lines) = text ++ "\n" ++ unlines lines := by
  rw [unlines, List.map_cons, String.join_cons, unlines]

/-- The lines of which a text is made contribute their code one by one. -/
theorem codeRows_unlines (lines : List String) :
    codeRows (unlines lines) = lines.flatMap codeRows ++ [[]] := by
  induction lines with
  | nil => rfl
  | cons text rest ih =>
      rw [unlines_cons, codeRows, rows_append_lineFeed, List.filter_append, List.flatMap_cons,
        List.append_assoc, ← ih]
      rfl

/-- Two texts that are made line by line are the same without their comments if their lines have
    the same code. -/
theorem withoutComments_unlines_eq_iff (lines lines' : List String) :
    withoutComments (unlines lines) = withoutComments (unlines lines') ↔
      lines.flatMap codeRows = lines'.flatMap codeRows := by
  -- The lines that are left can be told from the text that they make
  have hrows : ∀ texts : List String,
      (['\n'].intercalate (codeRows (unlines texts))).splitOn '\n' =
        texts.flatMap codeRows ++ [[]] := by
    intro texts
    rw [List.splitOn_intercalate, codeRows_unlines]
    · exact fun row hrow => List.not_mem_of_mem_splitOn ((List.mem_filter.mp hrow).1)
    · rw [codeRows_unlines]
      exact List.append_ne_nil_of_right_ne_nil _ (List.cons_ne_nil _ _)
  rw [withoutComments, withoutComments, String.ofList_inj]
  refine ⟨fun h => ?_, fun h => ?_⟩
  · have hsame := congrArg (List.splitOn '\n') h
    rw [hrows, hrows] at hsame
    exact List.append_cancel_right hsame
  · rw [codeRows_unlines, codeRows_unlines, h]

/-! ## Lines that start as a comment -/

theorem staysInComment_of_oneLine {text : String} (h : '\n' ∉ text.toList) :
    StaysInComment text := by
  rw [StaysInComment, rows_of_oneLine h]
  exact fun row hrow => (List.not_mem_nil hrow).elim

/-- Behind the start of a comment, a text brings in code unless it stays in the comment. -/
theorem codeRows_append_eq_nil_iff {start : String} (hone : '\n' ∉ start.toList)
    (hcomment : ∀ rest, isComment (start.toList ++ rest) = true) (text : String) :
    codeRows (start ++ text) = [] ↔ StaysInComment text := by
  rw [codeRows, rows_append hone, List.filter_eq_nil_iff, StaysInComment]
  cases hrows : rows text with
  | nil => exact (rows_ne_nil text hrows).elim
  | cons first others =>
      simp [hcomment]

end Wiring.Text
