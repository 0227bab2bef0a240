/-
  Wiring.Proofs.Options.Namespaces

  The choice of namespaces, by segments. Whether a name lies in a namespace is judged on the text: it
  is the namespace itself, or goes on behind it with a dot. A dot is where a segment ends, so a text
  goes on with a dot behind another exactly if it has all its segments, and more, whatever empty
  segments the two may have.
-/

import Wiring.Options.Basic

namespace List

variable {α : Type} {mark : α}

/-- Lists of parts that are joined one behind the other have a mark between them. -/
theorem intercalate_append_of_ne_nil {parts others : List (List α)} (hparts : parts ≠ [])
    (hothers : others ≠ []) :
    [mark].intercalate (parts ++ others) =
      [mark].intercalate parts ++ [mark] ++ [mark].intercalate others := by
  induction parts with
  | nil => exact (hparts rfl).elim
  | cons part rest ih =>
      by_cases hrest : rest = []
      · rw [hrest, singleton_append, intercalate_cons_of_ne_nil hothers, intercalate_singleton]
      · have happend : rest ++ others ≠ [] := append_ne_nil_of_left_ne_nil hrest others
        rw [cons_append, intercalate_cons_of_ne_nil happend, ih hrest,
          intercalate_cons_of_ne_nil hrest]
        simp only [append_assoc]

variable [BEq α] [LawfulBEq α] {xs ys : List α}

/-- The parts of a list are the first parts of another exactly if the lists are the same or the other
    goes on with a mark. -/
theorem splitOn_prefix_splitOn_iff :
    xs.splitOn mark <+: ys.splitOn mark ↔ ys = xs ∨ xs ++ [mark] <+: ys := by
  constructor
  · rintro ⟨others, hparts⟩
    have hjoined : [mark].intercalate (xs.splitOn mark ++ others) = ys := by
      rw [hparts, intercalate_splitOn]
    by_cases hothers : others = []
    · rw [hothers, append_nil, intercalate_splitOn] at hjoined
      exact .inl hjoined.symm
    · -- A mark stands between the parts of the first list and those behind them
      rw [intercalate_append_of_ne_nil (splitOn_ne_nil mark xs) hothers, intercalate_splitOn]
        at hjoined
      exact .inr ⟨[mark].intercalate others, hjoined⟩
  · rintro (rfl | ⟨rest, rfl⟩)
    · exact prefix_rfl
    · rw [append_assoc, singleton_append, splitOn_append_cons_self]
      exact prefix_append ..

end List

namespace Wiring

namespace QualifiedName

/-- The segments of a qualified name: what stands between its dots. -/
def segments (name : String) : List (List Char) := name.toList.splitOn '.'

/-- A name lies in a namespace exactly if its first segments are those of the namespace. -/
theorem isWithin_iff_segments (scope name : String) :
    isWithin scope name = true ↔ segments scope <+: segments name := by
  rw [segments, segments, List.splitOn_prefix_splitOn_iff, isWithin, Bool.or_eq_true, beq_iff_eq,
    List.isPrefixOf_iff_prefix, String.toList_inj]

end QualifiedName

namespace Options

open QualifiedName (segments)

/-- Where namespaces are chosen, a name is covered exactly if its first segments are all those of one
    of them. -/
theorem coversName_iff_segments (o : Options) (hchosen : o.namespaces ≠ []) (name : String) :
    o.coversName name = true ↔ ∃ scope ∈ o.namespaces, segments scope <+: segments name := by
  have hempty : o.namespaces.isEmpty = false := List.isEmpty_eq_false_iff.mpr hchosen
  rw [coversName, hempty, Bool.false_or, List.any_eq_true]
  exact exists_congr fun scope =>
    and_congr_right fun _ => QualifiedName.isWithin_iff_segments scope name

/-- Names in the namespaces `App` and `Shared.`, the second of which ends in an empty segment. -/
def inAppOrShared : Options := { namespaces := ["App", "Shared."] }

theorem inAppOrShared_covers_segments :
    inAppOrShared.namespaces ≠ [] ∧
      (inAppOrShared.coversName "Application.Thing" = true ↔
        ∃ scope ∈ inAppOrShared.namespaces, segments scope <+: segments "Application.Thing") :=
  ⟨by decide, coversName_iff_segments inAppOrShared (by decide) "Application.Thing"⟩

example : ["App", "App.Services.OrderService", "Application.Thing", "Shared.", "Shared..Text",
      "Shared.Text", "Shared", ""].filter inAppOrShared.coversName =
    ["App", "App.Services.OrderService", "Shared.", "Shared..Text"] := by
  decide

end Options
end Wiring
