/-
  Wiring.Proofs.Artifact.Lines

  The lines of registration source. Source is made line by line, and a line that is made of fixed
  words and literals stays one line, whatever the literals say; so the lines of a binder are those
  that it is made of.
-/

import Wiring.Artifact.Source
import Wiring.Proofs.Text.Comment
import Wiring.Proofs.Text.Literal
import Wiring.Proofs.Text.Marks

namespace Wiring

namespace Text

/-! ## Texts of lines -/

theorem unlines_append (texts others : List String) :
    unlines (texts ++ others) = unlines texts ++ unlines others := by
  rw [unlines, List.map_append, String.join_append, unlines, unlines]

theorem unlines_flatMap {α : Type} (entries : List α) (make : α → List String) :
    unlines (entries.flatMap make) = String.join (entries.map fun e => unlines (make e)) := by
  induction entries with
  | nil => rfl
  | cons e rest ih =>
      rw [List.flatMap_cons, unlines_append, ih, List.map_cons, String.join_cons]

/-! ## Texts on one line -/

/-- A text that stays on one line. -/
def IsOneLine (text : String) : Prop := '\n' ∉ text.toList

theorem isOneLine_word {cs : List Char} (h : '\n' ∉ cs) : IsOneLine (String.ofList cs) := by
  rwa [IsOneLine, String.toList_ofList]

theorem isOneLine_append_iff {start text : String} :
    IsOneLine (start ++ text) ↔ IsOneLine start ∧ IsOneLine text :=
  not_mem_append_iff

/-- What stays on one line does so between two words. -/
theorem isOneLine_between {before after : List Char} {text : String} (hbefore : '\n' ∉ before)
    (hafter : '\n' ∉ after) (h : IsOneLine text) :
    IsOneLine (String.ofList before ++ text ++ String.ofList after) := by
  rw [isOneLine_append_iff, isOneLine_append_iff]
  exact ⟨⟨isOneLine_word hbefore, h⟩, isOneLine_word hafter⟩

theorem isOneLine_intercalate {mark : String} (hmark : IsOneLine mark) {items : List String}
    (h : ∀ item ∈ items, IsOneLine item) : IsOneLine (mark.intercalate items) := by
  induction items with
  | nil =>
      rw [String.intercalate_nil]
      exact List.not_mem_nil
  | cons item rest ih =>
      rw [List.forall_mem_cons] at h
      by_cases hrest : rest = []
      · rw [hrest, String.intercalate_singleton]
        exact h.1
      · rw [String.intercalate_cons_of_ne_nil hrest, isOneLine_append_iff, isOneLine_append_iff]
        exact ⟨⟨h.1, hmark⟩, ih h.2⟩

theorem isOneLine_literal (text : String) : IsOneLine (literal text) :=
  lineFeed_not_mem_literal text

end Text

namespace Artifact.Source

open Text (literal IsOneLine isOneLine_word isOneLine_append_iff isOneLine_between
  isOneLine_intercalate isOneLine_literal)

/-! ## Values -/

theorem isOneLine_literals (items : List String) : IsOneLine (literals items) := by
  have hitems : ∀ item ∈ items.map literal, IsOneLine item := by
    intro item hitem
    obtain ⟨text, -, rfl⟩ := List.mem_map.mp hitem
    exact isOneLine_literal text
  have hjoined : IsOneLine (", ".intercalate (items.map literal)) :=
    isOneLine_intercalate (isOneLine_word (by decide)) hitems
  exact isOneLine_between (by decide) (by decide) hjoined

theorem isOneLine_optional {α : Type} {render : α → String} (h : ∀ a, IsOneLine (render a))
    (value : Option α) : IsOneLine (optional render value) := by
  cases value with
  | none => exact isOneLine_word (by decide)
  | some a => exact isOneLine_between (by decide) (by decide) (h a)

theorem isOneLine_flag (value : Bool) : IsOneLine (flag value) := by
  cases value
  · exact isOneLine_word (by decide)
  · exact isOneLine_word (by decide)

/-! ## Lines -/

theorem isOneLine_line {level : Nat} {text : String} (h : IsOneLine text) :
    IsOneLine (line level text) := by
  rw [line, isOneLine_append_iff]
  refine ⟨isOneLine_word fun hmem => ?_, h⟩
  exact absurd (List.eq_of_mem_replicate hmem) (by decide)

theorem isOneLine_field {level : Nat} {name value : String} (hname : IsOneLine name)
    (hvalue : IsOneLine value) : IsOneLine (field level name value) := by
  refine isOneLine_line ?_
  rw [isOneLine_append_iff, isOneLine_append_iff, isOneLine_append_iff]
  exact ⟨⟨⟨hname, isOneLine_word (by decide)⟩, hvalue⟩, isOneLine_word (by decide)⟩

theorem isOneLine_validation (b : Binding) : IsOneLine (validation b) := by
  unfold validation
  split
  · refine isOneLine_between (by decide) (by decide) (isOneLine_optional (fun validator => ?_) _)
    cases validator with
    | external | method => exact isOneLine_between (by decide) (by decide) (isOneLine_literal _)
  · exact isOneLine_word (by decide)

theorem isOneLine_propertyHead (path : String) (property : BoundProperty) :
    IsOneLine (propertyHead path property) := by
  unfold propertyHead
  simp only [isOneLine_append_iff, isOneLine_literal, isOneLine_flag, and_true]
  exact ⟨⟨⟨⟨isOneLine_word (by decide), isOneLine_word (by decide)⟩, isOneLine_word (by decide)⟩,
    isOneLine_word (by decide)⟩, isOneLine_word (by decide)⟩

mutual

/-- A record is made of lines that stay lines, if its head does. -/
theorem isOneLine_of_mem_coercionLines {head : String} (hhead : IsOneLine head) (level : Nat)
    (path : String) : ∀ (coercion : Coercion) {text : String},
      text ∈ coercionLines level path head coercion → IsOneLine text
  | .passthrough, _, h | .boolean, _, h | .guid, _, h => by
    obtain rfl := List.mem_singleton.mp h
    exact isOneLine_line (isOneLine_append_iff.mpr ⟨hhead, isOneLine_word (by decide)⟩)
  | .numeric type, _, h | .temporal type, _, h => by
    obtain rfl := List.mem_singleton.mp h
    refine isOneLine_line ?_
    simp only [isOneLine_append_iff, isOneLine_literal, hhead, and_true, true_and]
    exact ⟨isOneLine_word (by decide), isOneLine_word (by decide)⟩
  | .enum type members, _, h => by
    obtain rfl := List.mem_singleton.mp h
    refine isOneLine_line ?_
    simp only [isOneLine_append_iff, isOneLine_literal, isOneLine_literals, hhead, and_true,
      true_and]
    exact ⟨⟨isOneLine_word (by decide), isOneLine_word (by decide)⟩, isOneLine_word (by decide)⟩
  | .nested type properties, _, h => by
    rw [coercionLines, List.mem_append, List.mem_cons, List.mem_singleton] at h
    rcases h with (rfl | hinside) | rfl
    · refine isOneLine_line ?_
      simp only [isOneLine_append_iff, isOneLine_literal, hhead, and_true, true_and]
      exact ⟨isOneLine_word (by decide), isOneLine_word (by decide)⟩
    · exact isOneLine_of_mem_propertyLines (level + 1) path properties hinside
    · exact isOneLine_line (isOneLine_word (by decide))

theorem isOneLine_of_mem_propertyLines (level : Nat) (path : String) :
    ∀ (properties : List BoundProperty) {text : String},
      text ∈ propertyLines level path properties → IsOneLine text
  | [], _, h => (List.not_mem_nil h).elim
  | ⟨_, _, _, _, coercion⟩ :: rest, _, h => by
    rw [propertyLines, List.mem_append] at h
    rcases h with hfirst | hrest
    · exact isOneLine_of_mem_coercionLines (isOneLine_propertyHead _ _) level _ coercion hfirst
    · exact isOneLine_of_mem_propertyLines level path rest hrest

end

theorem isOneLine_of_mem_bindingStatement {b : Binding} {text : String}
    (h : text ∈ bindingStatement .generated b) : IsOneLine text := by
  unfold bindingStatement at h
  rw [List.mem_append, List.mem_append] at h
  simp only [List.mem_cons, List.not_mem_nil, or_false] at h
  rcases h with ((rfl | rfl | rfl | rfl | rfl | rfl | rfl) | hproperties) | rfl | rfl
  · exact isOneLine_line (isOneLine_word (by decide))
  · exact isOneLine_field (isOneLine_word (by decide)) (isOneLine_literal _)
  · exact isOneLine_field (isOneLine_word (by decide)) (isOneLine_literal _)
  · exact isOneLine_field (isOneLine_word (by decide)) (isOneLine_optional isOneLine_literal _)
  · exact isOneLine_field (isOneLine_word (by decide)) (isOneLine_validation b)
  · exact isOneLine_field (isOneLine_word (by decide)) (isOneLine_flag _)
  · exact isOneLine_line (isOneLine_word (by decide))
  · exact isOneLine_of_mem_propertyLines 3 b.path b.properties hproperties
  · exact isOneLine_line (isOneLine_word (by decide))
  · exact isOneLine_line (isOneLine_word (by decide))

end Artifact.Source
end Wiring
