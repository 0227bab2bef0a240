/-
  Wiring.Proofs.Diagnostic.Message

  Messages as templates with all places filled at once. A message is made by replacing one
  placeholder after the other, so an argument may bring in text that looks like a placeholder still
  to be replaced. Every placeholder starts with a brace; as long as no argument holds one, the order
  makes no difference, and a message whose places all have an argument is left without braces.
-/

import Wiring.Diagnostic.Basic
import Wiring.Proofs.Text.Marks

namespace Wiring

/-! ## Templates -/

namespace Template

/-- The text of a template with its places filled all at once; a place that nothing is given for
    stays as it is written. -/
def fill (template : Template) (given : Nat → Option String) : String :=
  String.join <| template.map fun
    | .words text => text
    | .hole index => (given index).getD (placeholder index)

/-- The words of a template. -/
def wordings (template : Template) : List String :=
  template.filterMap fun
    | .words text => some text
    | .hole _ => none

/-- The places of a template. -/
def holes (template : Template) : List Nat :=
  template.filterMap fun
    | .words _ => none
    | .hole index => some index

/-- The words hold no brace, so every brace in the text is that of a place. -/
def IsPlain (template : Template) : Prop := ∀ text ∈ template.wordings, '\x7b' ∉ text.toList

variable {template : Template} {given : Nat → Option String}

theorem fill_nothing (template : Template) : template.fill (fun _ => none) = template.text := by
  refine congrArg String.join (List.map_congr_left fun piece _ => ?_)
  cases piece <;> rfl

theorem fill_words (text : String) (rest : Template) (given : Nat → Option String) :
    fill (.words text :: rest) given = text ++ fill rest given := by
  rw [fill, List.map_cons, String.join_cons, fill]

theorem fill_hole (index : Nat) (rest : Template) (given : Nat → Option String) :
    fill (.hole index :: rest) given =
      (given index).getD (placeholder index) ++ fill rest given := by
  rw [fill, List.map_cons, String.join_cons, fill]

theorem isPlain_nil : IsPlain [] := nofun

theorem isPlain_words_cons {text : String} {rest : Template} :
    IsPlain (.words text :: rest) ↔ '\x7b' ∉ text.toList ∧ IsPlain rest := by
  show (∀ word ∈ text :: wordings rest, '\x7b' ∉ word.toList) ↔ _
  exact List.forall_mem_cons

theorem isPlain_hole_cons {index : Nat} {rest : Template} :
    IsPlain (.hole index :: rest) ↔ IsPlain rest := Iff.rfl

/-- Where every place is given something without braces, no brace is left. -/
theorem brace_not_mem_fill (hplain : template.IsPlain)
    (hgiven : ∀ index ∈ template.holes, ∃ arg, given index = some arg ∧ '\x7b' ∉ arg.toList) :
    '\x7b' ∉ (template.fill given).toList := by
  induction template with
  | nil => exact List.not_mem_nil
  | cons piece rest ih =>
      cases piece with
      | words text =>
          rw [isPlain_words_cons] at hplain
          rw [fill_words, Text.not_mem_append_iff]
          exact ⟨hplain.1, ih hplain.2 hgiven⟩
      | hole index =>
          rw [isPlain_hole_cons] at hplain
          change ∀ i ∈ index :: holes rest, _ at hgiven
          rw [List.forall_mem_cons] at hgiven
          obtain ⟨⟨arg, harg, hbrace⟩, hrest⟩ := hgiven
          rw [fill_hole, harg, Option.getD_some, Text.not_mem_append_iff]
          exact ⟨hbrace, ih hplain hrest⟩

end Template

/-! ## Placeholders -/

theorem toList_placeholder (index : Nat) :
    (placeholder index).toList = '\x7b' :: (Nat.toDigits 10 index ++ ['\x7d']) := by
  have hdigits : (toString index).toList = Nat.toDigits 10 index := by
    rw [Nat.toString_eq_ofList_toDigits, String.toList_ofList]
  rw [placeholder, String.toList_append, String.toList_append, hdigits]
  rfl

/-- The digits of a number are no braces. -/
theorem isDigit_of_mem_digits {n : Nat} {c : Char} (h : c ∈ Nat.toDigits 10 n) :
    c.isDigit = true :=
  Nat.isDigit_of_mem_toDigits (by decide) (by decide) h

theorem toDigits_injective {m n : Nat} (h : Nat.toDigits 10 m = Nat.toDigits 10 n) : m = n := by
  have hm : Nat.ofDigitChars 10 (Nat.toDigits 10 m) 0 = m :=
    Nat.ofDigitChars_toDigits (by decide) (by decide)
  have hn : Nat.ofDigitChars 10 (Nat.toDigits 10 n) 0 = n :=
    Nat.ofDigitChars_toDigits (by decide) (by decide)
  rw [← hm, h, hn]

/-- Behind their first brace, placeholders of different places differ. -/
theorem not_start_of_other_placeholder {i j : Nat} (hne : i ≠ j) (rest : List Char) :
    ¬ Nat.toDigits 10 i ++ ['\x7d'] <+: Nat.toDigits 10 j ++ ['\x7d'] ++ rest := by
  rintro ⟨tail, htail⟩
  rw [List.append_assoc, List.append_assoc] at htail
  have hdigits : ∀ {n : Nat}, ∀ c ∈ Nat.toDigits 10 n, (c == '\x7d') = false := by
    intro n c hc
    refine beq_false_of_ne fun hbrace => ?_
    exact absurd (hbrace ▸ isDigit_of_mem_digits hc) (by decide)
  have hclose : ∀ {tail : List Char}, ∀ c ∈ (['\x7d'] ++ tail).head?, (c == '\x7d') = true := by
    intro tail c hc
    obtain rfl := Option.some.inj hc
    rfl
  exact hne (toDigits_injective
    (List.append_inj_of_marks hdigits hdigits hclose hclose htail).1)

namespace Template

variable {template : Template} {given : Nat → Option String}

/-- Replacing a placeholder in a text gives its place what it is replaced by, if nothing that other
    places are given holds a brace. -/
theorem replaceAll_fill (hplain : template.IsPlain)
    (hgiven : ∀ i arg, given i = some arg → '\x7b' ∉ arg.toList) {index : Nat}
    (hopen : given index = none) (arg : String) :
    Text.replaceAll (placeholder index) arg (template.fill given) =
      template.fill fun i => if i = index then some arg else given i := by
  rw [← String.toList_inj, Text.replaceAll, String.toList_ofList, toList_placeholder]
  induction template with
  | nil => rfl
  | cons piece rest ih =>
      cases piece with
      | words text =>
          rw [isPlain_words_cons] at hplain
          rw [fill_words, fill_words, String.toList_append, String.toList_append,
            Text.replaceFrom_append_of_not_mem hplain.1, ih hplain.2]
      | hole i =>
          rw [isPlain_hole_cons] at hplain
          rw [fill_hole, fill_hole, String.toList_append, String.toList_append, ← ih hplain]
          by_cases hi : i = index
          · -- The place itself
            subst hi
            rw [hopen, Option.getD_none, if_pos rfl, Option.getD_some, toList_placeholder,
              Text.replaceFrom_word_append]
          · rw [if_neg hi]
            cases hother : given i with
            | some other =>
                rw [Option.getD_some, Text.replaceFrom_append_of_not_mem (hgiven i other hother)]
            | none =>
                -- Another place that is still open
                have hdigits : '\x7b' ∉ Nat.toDigits 10 i ++ ['\x7d'] := by
                  rw [List.mem_append, not_or]
                  refine ⟨fun hmem => ?_, by decide⟩
                  exact absurd (isDigit_of_mem_digits hmem) (by decide)
                rw [Option.getD_none, toList_placeholder,
                  Text.replaceFrom_cons_of_not_prefix hdigits
                    (not_start_of_other_placeholder (Ne.symm hi) _)]

end Template

/-! ## Messages -/

namespace Diagnostic

/-- Filling the places one after the other, from one on, gives each of them its argument. -/
theorem fillFrom_fill {template : Template} (hplain : template.IsPlain) (args : List String)
    (hargs : ∀ arg ∈ args, '\x7b' ∉ arg.toList) {index : Nat} {given : Nat → Option String}
    (hgiven : ∀ i arg, given i = some arg → '\x7b' ∉ arg.toList)
    (hopen : ∀ i, index ≤ i → given i = none) :
    fillFrom index (template.fill given) args =
      template.fill fun i => if i < index then given i else args[i - index]? := by
  induction args generalizing index given with
  | nil =>
      rw [fillFrom]
      congr 1
      funext i
      split
      · rfl
      · rw [hopen i (by omega), List.getElem?_nil]
  | cons arg rest ih =>
      rw [List.forall_mem_cons] at hargs
      rw [fillFrom, Template.replaceAll_fill hplain hgiven (hopen index (Nat.le_refl _)),
        ih hargs.2]
      · congr 1
        funext i
        by_cases hi : i = index
        · subst hi
          simp
        · by_cases hless : i < index
          · rw [if_pos (by omega), if_neg hi, if_pos hless]
          · -- The arguments behind the first, one place further on
            rw [if_neg (by omega), if_neg hless, show i - index = i - (index + 1) + 1 by omega,
              List.getElem?_cons_succ]
      · intro i other hother
        by_cases hi : i = index
        · rw [if_pos hi] at hother
          exact Option.some.inj hother ▸ hargs.1
        · rw [if_neg hi] at hother
          exact hgiven i other hother
      · intro i hi
        rw [if_neg (by omega)]
        exact hopen i (by omega)

/-- A brace in the template of a problem is that of a place. -/
theorem isPlain_template (problem : Problem) : problem.template.IsPlain := by
  -- The words are looked through as lists of characters
  have hwords : ∀ {cs : List Char}, '\x7b' ∉ cs → '\x7b' ∉ (String.ofList cs).toList := by
    intro cs h
    rwa [String.toList_ofList]
  cases problem
  all_goals
    simp only [Problem.template, Template.isPlain_words_cons, Template.isPlain_hole_cons,
      Template.isPlain_nil, Text.not_mem_append_iff, and_true]
    repeat' apply And.intro
  all_goals exact hwords (by decide)

variable {e : Diagnostic}

/-- The arguments of a diagnostic hold no braces, and there is one for each place. -/
structure Supplies (e : Diagnostic) : Prop where
  places : ∀ index ∈ e.problem.template.holes, index < e.args.length
  plain : ∀ arg ∈ e.args, '\x7b' ∉ arg.toList

/-- The message is the template with all places filled at once, and none of them is left open. -/
structure IsFilled (e : Diagnostic) : Prop where
  supplied : ∀ index ∈ e.problem.template.holes, index < e.args.length
  message : e.message = e.problem.template.fill (e.args[·]?)
  closed : '\x7b' ∉ e.message.toList

theorem message_eq_fill (h : ∀ arg ∈ e.args, '\x7b' ∉ arg.toList) :
    e.message = e.problem.template.fill (e.args[·]?) := by
  -- Before the first argument, every place is open
  have hfilled : fillFrom 0 (e.problem.template.fill fun _ => none) e.args =
      e.problem.template.fill fun i => if i < 0 then none else e.args[i - 0]? :=
    fillFrom_fill (isPlain_template e.problem) e.args h (fun _ _ hnone => nomatch hnone)
      fun _ _ => rfl
  rw [Template.fill_nothing] at hfilled
  simpa [message] using hfilled

/-- An argument with a brace is taken for a place. -/
example : (Diagnostic.of .decoratorMissingInner ["\x7b1\x7d", "App.IMailer"]
      (.codeModule "App")).message =
    "Decorator 'App.IMailer' targets 'App.IMailer' but has no constructor accepting " ++
      "'App.IMailer'" := by
  decide +kernel

theorem Supplies.isFilled (h : e.Supplies) : e.IsFilled where
  supplied := h.places
  message := message_eq_fill h.plain
  closed := by
    rw [message_eq_fill h.plain]
    refine Template.brace_not_mem_fill (isPlain_template e.problem) fun index hplace => ?_
    have harg := List.getElem?_eq_getElem (h.places index hplace)
    exact ⟨_, harg, h.plain _ (List.getElem_mem _)⟩

end Diagnostic
end Wiring
