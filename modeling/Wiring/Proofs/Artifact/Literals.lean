/-
  Wiring.Proofs.Artifact.Literals

  Values of registration source that stand for texts. A literal is closed by its last character and
  stands for the text that it was made of, whatever the text says; so a list of literals can be read
  one literal after the other, and different lists of texts are written differently.
-/

import Wiring.Artifact.Source
import Wiring.Proofs.Text.Literal

namespace Wiring

namespace Text

/-- The characters that end a line: the line feed, the vertical tab, the form feed, the carriage
    return, the next line and the separators of lines and of paragraphs. -/
def lineBreaks : List Char := ['\n', '\x0b', '\x0c', '\r', '\x85', '\u2028', '\u2029']

/-- A source is a string literal for a text: it stays on one line, it opens with a quote, the next
    quote that is not escaped is its last character, and it is read as the text, whatever stands
    behind it. -/
structure IsLiteralOf (source text : String) : Prop where
  oneLine : ∀ c ∈ source.toList, c ∉ lineBreaks
  opens : source.toList.head? = some '"'
  closes : closingQuote? source.toList.tail = some (source.toList.tail.length - 1)
  reads : ∀ rest, readLiteral (source.toList ++ rest) = some (text, rest)

theorem isLiteralOf_literal (text : String) : IsLiteralOf (literal text) text where
  oneLine c hc hbreak := by
    -- No character that ends a line shows as itself
    have hhidden : lineBreaks.all (fun c => !isPlain c) = true := by decide +kernel
    have hnone := List.all_eq_true.mp hhidden c hbreak
    rw [isPlain_of_mem_literal hc] at hnone
    cases hnone
  opens := by rw [toList_literal, List.head?_cons]
  closes := closingQuote?_literal text
  reads := readLiteral_append text

end Text

namespace Artifact.Source

open Text (literal literal_append_inj toList_literal IsLiteralOf isLiteralOf_literal)

/-! ## Lists of literals -/

/-- The literals of a list behind the first one, each behind a comma. -/
def furtherLiterals (items : List String) : List Char :=
  items.flatMap fun item => ',' :: ' ' :: (literal item).toList

theorem furtherLiterals_cons (item : String) (items : List String) :
    furtherLiterals (item :: items) =
      ',' :: ' ' :: ((literal item).toList ++ furtherLiterals items) := by
  rw [furtherLiterals, List.flatMap_cons, furtherLiterals]
  rfl

theorem toList_intercalate_literal (item : String) (items : List String) :
    (", ".intercalate ((item :: items).map literal)).toList =
      (literal item).toList ++ furtherLiterals items := by
  induction items generalizing item with
  | nil =>
      rw [List.map_singleton, String.intercalate_singleton, furtherLiterals, List.flatMap_nil,
        List.append_nil]
  | cons next items ih =>
      rw [List.map_cons, List.map_cons, String.intercalate_cons_cons, ← List.map_cons,
        String.toList_append, String.toList_append, ih, furtherLiterals_cons, List.append_assoc]
      rfl

/-- The literals behind the first one tell the texts that they are made of, and where the list is
    closed: each of them is read before what stands behind it. -/
theorem furtherLiterals_append_inj {items others : List String} {rest rest' : List Char}
    (h : furtherLiterals items ++ ']' :: rest = furtherLiterals others ++ ']' :: rest') :
    items = others ∧ rest = rest' := by
  induction items generalizing others with
  | nil =>
      cases others with
      | nil => exact ⟨rfl, (List.cons.inj h).2⟩
      | cons other others => cases h
  | cons item items ih =>
      cases others with
      | nil => cases h
      | cons other others =>
          simp only [furtherLiterals_cons, List.cons_append, List.append_assoc, List.cons.injEq,
            true_and] at h
          obtain ⟨rfl, hbehind⟩ := literal_append_inj h
          obtain ⟨rfl, hrest⟩ := ih hbehind
          exact ⟨rfl, hrest⟩

theorem toList_literals_nil : (literals []).toList = ['&', '[', ']'] := rfl

theorem toList_literals_cons (item : String) (items : List String) :
    (literals (item :: items)).toList =
      '&' :: '[' :: ((literal item).toList ++ (furtherLiterals items ++ [']'])) := by
  rw [literals, String.toList_append, String.toList_append, toList_intercalate_literal,
    List.append_assoc, List.append_assoc]
  rfl

/-- A list of literals can be told from what follows it, as a literal can. -/
theorem literals_append_inj {items others : List String} {rest rest' : List Char}
    (h : (literals items).toList ++ rest = (literals others).toList ++ rest') :
    items = others ∧ rest = rest' := by
  -- An empty list is closed where another has the quote of its first literal
  have hnil : ∀ {item : String} {items : List String} {rest rest' : List Char},
      (literals []).toList ++ rest ≠ (literals (item :: items)).toList ++ rest' := by
    intro _ _ _ _ h
    rw [toList_literals_nil, toList_literals_cons, toList_literal] at h
    cases h
  cases items with
  | nil =>
      cases others with
      | nil => exact ⟨rfl, List.append_cancel_left h⟩
      | cons other others => exact (hnil h).elim
  | cons item items =>
      cases others with
      | nil => exact (hnil h.symm).elim
      | cons other others =>
          simp only [toList_literals_cons, List.cons_append, List.append_assoc, List.cons.injEq,
            true_and, List.nil_append] at h
          obtain ⟨rfl, hbehind⟩ := literal_append_inj h
          obtain ⟨rfl, hrest⟩ := furtherLiterals_append_inj hbehind
          exact ⟨rfl, hrest⟩

/-- A literal cannot be left before its end: whatever text it is made of, it stays on its line, is
    closed by its last character and is read as the text. So a list of literals is known by its
    text. -/
theorem literals_hold_texts :
    (∀ text, IsLiteralOf (literal text) text) ∧
      ∀ items others, literals items = literals others ↔ items = others := by
  refine ⟨isLiteralOf_literal, fun items others => ⟨fun h => ?_, congrArg literals⟩⟩
  have hsame : (literals items).toList ++ [] = (literals others).toList ++ [] := by rw [h]
  exact (literals_append_inj hsame).1

example : literals ["a\", \"b", "c\\"] = "&[\"a\\\", \\\"b\", \"c\\\\\"]" := by decide

end Artifact.Source
end Wiring
