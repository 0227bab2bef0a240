/-
  Wiring.Proofs.TypeRef.Text

  Reading a reference off its text. Names, arguments and marks of nullability are told apart by the
  four characters that stand between names, so a text in front of what may follow a reference
  belongs to one reference only, as long as no name holds one of these characters. Kinds are not
  written.
-/

import Wiring.Proofs.Text.Marks
import Wiring.Proofs.TypeRef.SameType

namespace Wiring
namespace TypeRef

/-! ## Names -/

mutual

/-- The names in a reference: its own, and those in its arguments at any depth. -/
def names : TypeRef → List String
  | ⟨name, _, args, _⟩ => name :: namesAll args

/-- The names in references. -/
def namesAll : List TypeRef → List String
  | [] => []
  | arg :: rest => names arg ++ namesAll rest

end

/-- The characters that a text has around names: those between arguments and the mark of
    nullability. -/
def punctuation : List Char := ['<', '>', ',', '?']

/-- No name in the reference, at any depth, holds punctuation. -/
def HasPlainNames (ref : TypeRef) : Prop :=
  ∀ name ∈ ref.names, ∀ c ∈ punctuation, c ∉ name.toList

mutual

/-- A character of a text stands in a name or around names. -/
theorem mem_text : ∀ (ref : TypeRef) {c : Char}, c ∈ ref.text.toList →
    c ∈ ' ' :: punctuation ∨ ∃ name ∈ ref.names, c ∈ name.toList
  | ⟨name, kind, args, nullable⟩, c, h => by
    rw [text, String.toList_append, String.toList_append, List.mem_append, List.mem_append] at h
    rcases h with (hname | hargs) | hmark
    · exact .inr ⟨name, List.mem_cons_self .., hname⟩
    · refine (mem_argsText args hargs).imp id ?_
      rintro ⟨inner, hinner, hc⟩
      exact ⟨inner, List.mem_cons_of_mem _ hinner, hc⟩
    · cases nullable with
      | true => exact .inl (List.mem_singleton.mp hmark ▸ by decide)
      | false => cases hmark

theorem mem_argsText : ∀ (args : List TypeRef) {c : Char}, c ∈ (argsText args).toList →
    c ∈ ' ' :: punctuation ∨ ∃ name ∈ namesAll args, c ∈ name.toList
  | [], _, h => by cases h
  | arg :: rest, c, h => by
    rw [argsText, String.toList_append, String.toList_append, String.toList_append,
      List.mem_append, List.mem_append, List.mem_append] at h
    rcases h with ((hopen | harg) | hrest) | hclose
    · exact .inl (List.mem_singleton.mp hopen ▸ by decide)
    · refine (mem_text arg harg).imp id ?_
      rintro ⟨inner, hinner, hc⟩
      exact ⟨inner, List.mem_append_left _ hinner, hc⟩
    · refine (mem_moreArgsText rest hrest).imp id ?_
      rintro ⟨inner, hinner, hc⟩
      exact ⟨inner, List.mem_append_right _ hinner, hc⟩
    · exact .inl (List.mem_singleton.mp hclose ▸ by decide)

theorem mem_moreArgsText : ∀ (args : List TypeRef) {c : Char}, c ∈ (moreArgsText args).toList →
    c ∈ ' ' :: punctuation ∨ ∃ name ∈ namesAll args, c ∈ name.toList
  | [], _, h => by cases h
  | arg :: rest, c, h => by
    rw [moreArgsText, String.toList_append, String.toList_append, List.mem_append,
      List.mem_append] at h
    rcases h with (hcomma | harg) | hrest
    · refine .inl ?_
      have hseparator : [',', ' '] ⊆ ' ' :: punctuation := by simp [punctuation]
      exact hseparator hcomma
    · refine (mem_text arg harg).imp id ?_
      rintro ⟨inner, hinner, hc⟩
      exact ⟨inner, List.mem_append_left _ hinner, hc⟩
    · refine (mem_moreArgsText rest hrest).imp id ?_
      rintro ⟨inner, hinner, hc⟩
      exact ⟨inner, List.mem_append_right _ hinner, hc⟩

end

/-! ## One text, one reference -/

/-- What may stand behind a reference: nothing, a comma or a closing bracket. -/
def Ends (rest : List Char) : Prop := ∀ c ∈ rest.head?, c = ',' ∨ c = '>'

/-- What may stand behind the arguments of a reference: its mark, or what may stand behind it. -/
def EndsArgs (rest : List Char) : Prop := ∀ c ∈ rest.head?, c = '?' ∨ c = ',' ∨ c = '>'

theorem ends_moreArgs (args : List TypeRef) (rest : List Char) :
    Ends ((moreArgsText args).toList ++ '>' :: rest) := by
  cases args with
  | nil =>
      intro c hc
      exact .inr (Option.some.inj hc).symm
  | cons arg args =>
      intro c hc
      rw [moreArgsText, String.toList_append, String.toList_append] at hc
      exact .inl (Option.some.inj hc).symm

theorem endsArgs_mark {rest : List Char} (h : Ends rest) (nullable : Bool) :
    EndsArgs ((if nullable then "?" else "").toList ++ rest) := by
  cases nullable with
  | true =>
      intro c hc
      exact .inl (Option.some.inj hc).symm
  | false =>
      intro c hc
      exact .inr (h c hc)

/-- The mark of nullability can be told from what may stand behind a reference. -/
theorem mark_append_inj {nullable nullable' : Bool} {rest rest' : List Char} (hrest : Ends rest)
    (hrest' : Ends rest')
    (h : (if nullable then "?" else "").toList ++ rest =
      (if nullable' then "?" else "").toList ++ rest') :
    nullable = nullable' ∧ rest = rest' := by
  have hnot : ∀ {tail : List Char}, ¬ Ends ('?' :: tail) := fun hends =>
    absurd (hends '?' rfl) (by decide)
  cases nullable with
  | true =>
      cases nullable' with
      | true => exact ⟨rfl, List.tail_eq_of_cons_eq h⟩
      | false =>
          change '?' :: rest = rest' at h
          exact absurd (h ▸ hrest') hnot
  | false =>
      cases nullable' with
      | true =>
          change rest = '?' :: rest' at h
          exact absurd (h ▸ hrest) hnot
      | false => exact ⟨rfl, h⟩

/-- The name can be told from what may stand behind it. -/
theorem name_append_inj {name name' : String} {args args' : List TypeRef} {rest rest' : List Char}
    (hname : ∀ c ∈ punctuation, c ∉ name.toList) (hname' : ∀ c ∈ punctuation, c ∉ name'.toList)
    (hrest : EndsArgs rest) (hrest' : EndsArgs rest')
    (h : name.toList ++ ((argsText args).toList ++ rest) =
      name'.toList ++ ((argsText args').toList ++ rest')) :
    name = name' ∧ (argsText args).toList ++ rest = (argsText args').toList ++ rest' := by
  have hplain : ∀ {word : String}, (∀ c ∈ punctuation, c ∉ word.toList) →
      ∀ c ∈ word.toList, punctuation.contains c = false := by
    intro word hword c hc
    rw [Bool.eq_false_iff]
    intro hmark
    exact hword c (List.contains_iff_mem.mp hmark) hc
  have hbehind : ∀ {args : List TypeRef} {rest : List Char}, EndsArgs rest →
      ∀ c ∈ ((argsText args).toList ++ rest).head?, punctuation.contains c = true := by
    intro args rest hends c hc
    cases args with
    | nil =>
        -- Without arguments, what may stand behind them stands behind the name
        rcases hends c hc with rfl | rfl | rfl <;> decide
    | cons arg args =>
        rw [argsText, String.toList_append, String.toList_append, String.toList_append] at hc
        obtain rfl := Option.some.inj hc
        decide
  obtain ⟨hsame, hargs⟩ := List.append_inj_of_marks (hplain hname) (hplain hname')
    (hbehind hrest) (hbehind hrest') h
  exact ⟨String.toList_inj.mp hsame, hargs⟩

mutual

/-- A text in front of what may stand behind a reference is that of one reference only, but for the
    kinds. -/
theorem text_append_inj : ∀ (a b : TypeRef) {rest rest' : List Char},
    a.HasPlainNames → b.HasPlainNames → Ends rest → Ends rest' →
    a.text.toList ++ rest = b.text.toList ++ rest' →
    a.withoutKinds = b.withoutKinds ∧ rest = rest'
  | ⟨name, kind, args, nullable⟩, ⟨name', kind', args', nullable'⟩, rest, rest', ha, hb, hrest,
    hrest', h => by
    rw [HasPlainNames, names, List.forall_mem_cons] at ha hb
    rw [text, text, String.toList_append, String.toList_append, String.toList_append,
      String.toList_append, List.append_assoc, List.append_assoc, List.append_assoc,
      List.append_assoc] at h
    -- Read from the left: the name, the arguments, the mark
    obtain ⟨rfl, hbehind⟩ := name_append_inj ha.1 hb.1 (endsArgs_mark hrest nullable)
      (endsArgs_mark hrest' nullable') h
    obtain ⟨hargs, hmark⟩ := argsText_append_inj args args' ha.2 hb.2
      (endsArgs_mark hrest nullable) (endsArgs_mark hrest' nullable') hbehind
    obtain ⟨rfl, hsame⟩ := mark_append_inj hrest hrest' hmark
    rw [withoutKinds, withoutKinds, hargs]
    exact ⟨rfl, hsame⟩

/-- The same for the arguments of a reference. -/
theorem argsText_append_inj : ∀ (as bs : List TypeRef) {rest rest' : List Char},
    (∀ name ∈ namesAll as, ∀ c ∈ punctuation, c ∉ name.toList) →
    (∀ name ∈ namesAll bs, ∀ c ∈ punctuation, c ∉ name.toList) →
    EndsArgs rest → EndsArgs rest' →
    (argsText as).toList ++ rest = (argsText bs).toList ++ rest' →
    withoutKindsAll as = withoutKindsAll bs ∧ rest = rest'
  | [], [], _, _, _, _, _, _, h => ⟨rfl, h⟩
  | [], b :: bs, rest, _, _, _, hrest, _, h => by
    rw [argsText, argsText, String.toList_append, String.toList_append, String.toList_append] at h
    -- Nothing that may stand behind the arguments is an opening bracket
    have hopen : rest.head? = some '<' := by rw [show rest = _ from h]; rfl
    exact absurd (hrest _ hopen) (by decide)
  | a :: as, [], _, rest', _, _, _, hrest', h => by
    rw [argsText, argsText, String.toList_append, String.toList_append, String.toList_append] at h
    have hopen : rest'.head? = some '<' := by rw [show rest' = _ from h.symm]; rfl
    exact absurd (hrest' _ hopen) (by decide)
  | a :: as, b :: bs, rest, rest', ha, hb, _, _, h => by
    rw [namesAll, List.forall_mem_append] at ha hb
    rw [argsText, argsText] at h
    simp only [String.toList_append, List.append_assoc] at h
    obtain ⟨hfirst, hbehind⟩ := text_append_inj a b ha.1 hb.1 (ends_moreArgs as rest)
      (ends_moreArgs bs rest') (List.append_cancel_left h)
    obtain ⟨hmore, hsame⟩ := moreArgsText_append_inj as bs ha.2 hb.2 hbehind
    rw [withoutKindsAll, withoutKindsAll, hfirst, hmore]
    exact ⟨rfl, hsame⟩

/-- The same for the arguments after the first, in front of the closing bracket. -/
theorem moreArgsText_append_inj : ∀ (as bs : List TypeRef) {rest rest' : List Char},
    (∀ name ∈ namesAll as, ∀ c ∈ punctuation, c ∉ name.toList) →
    (∀ name ∈ namesAll bs, ∀ c ∈ punctuation, c ∉ name.toList) →
    (moreArgsText as).toList ++ '>' :: rest = (moreArgsText bs).toList ++ '>' :: rest' →
    withoutKindsAll as = withoutKindsAll bs ∧ rest = rest'
  | [], [], _, _, _, _, h => ⟨rfl, List.tail_eq_of_cons_eq h⟩
  | [], b :: bs, _, _, _, _, h => by
    rw [moreArgsText, moreArgsText, String.toList_append, String.toList_append] at h
    exact absurd (List.head_eq_of_cons_eq h) (by decide)
  | a :: as, [], _, _, _, _, h => by
    rw [moreArgsText, moreArgsText, String.toList_append, String.toList_append] at h
    exact absurd (List.head_eq_of_cons_eq h) (by decide)
  | a :: as, b :: bs, rest, rest', ha, hb, h => by
    rw [namesAll, List.forall_mem_append] at ha hb
    rw [moreArgsText, moreArgsText] at h
    simp only [String.toList_append, List.append_assoc] at h
    obtain ⟨hfirst, hbehind⟩ := text_append_inj a b ha.1 hb.1 (ends_moreArgs as rest)
      (ends_moreArgs bs rest') (List.append_cancel_left h)
    obtain ⟨hmore, hsame⟩ := moreArgsText_append_inj as bs ha.2 hb.2 hbehind
    rw [withoutKindsAll, withoutKindsAll, hfirst, hmore]
    exact ⟨rfl, hsame⟩

end

/-- References without punctuation in their names have the same text exactly if they agree in
    everything but their kinds. -/
theorem text_eq_iff_withoutKinds_eq (a b : TypeRef) (ha : a.HasPlainNames)
    (hb : b.HasPlainNames) : a.text = b.text ↔ a.withoutKinds = b.withoutKinds := by
  refine ⟨fun h => ?_, text_eq_of_withoutKinds_eq⟩
  have hnothing : Ends [] := nofun
  exact (text_append_inj a b ha hb hnothing hnothing (by rw [h])).1

/-- A list of pairs of an order and a bill. -/
def pairsOf (order bill : TypeRef) (mark : TypeRef → TypeRef) : TypeRef :=
  (ofInterface "App.IList").withArg (mark (((ofClass "App.Pair").withArg order).withArg bill))

/-- Lists of pairs that may be missing, and lists of pairs whose bill may be missing, do not have
    the same text. -/
theorem pairsOf_text_ne :
    (pairsOf (ofClass "App.Order") (ofClass "App.Bill") orNull).HasPlainNames ∧
      (pairsOf (ofClass "App.Order") (ofClass "App.Bill").orNull id).HasPlainNames ∧
      (pairsOf (ofClass "App.Order") (ofClass "App.Bill") orNull).text ≠
        (pairsOf (ofClass "App.Order") (ofClass "App.Bill").orNull id).text := by
  have hplain : ∀ ref : TypeRef, ref.names = ["App.IList", "App.Pair", "App.Order", "App.Bill"] →
      ref.HasPlainNames := by
    intro ref hnames
    rw [HasPlainNames, hnames]
    simp [punctuation]
  have hpairs := hplain (pairsOf (ofClass "App.Order") (ofClass "App.Bill") orNull) rfl
  have hbills := hplain (pairsOf (ofClass "App.Order") (ofClass "App.Bill").orNull id) rfl
  refine ⟨hpairs, hbills, fun h => ?_⟩
  have hsame := (text_eq_iff_withoutKinds_eq _ _ hpairs hbills).mp h
  exact absurd hsame (by decide)

end TypeRef
end Wiring
