/-
  Wiring.Proofs.Text.Literal

  Reading string literals. A reader goes through a literal one character at a time, up to the quote
  that ends it: a backslash starts an escape, which may be a letter, a byte, a code point or the end
  of a line that is continued. What is written as a literal is read as itself, whatever stands
  behind it; it ends at the first quote that no backslash escapes, and every character of it shows,
  so that it stays on one line.
-/

import Wiring.Json.Token
import Wiring.Proofs.Json.Token
import Wiring.Text.Literal

namespace Wiring.Text

open Json (hexValue hexValue_digitChar)

/-! ## The reader -/

/-- How far a literal has been read. -/
inductive LiteralPart where
  /-- Between characters. -/
  | between
  /-- Behind a backslash. -/
  | escape
  /-- In the digits of a byte, behind the first of them where there is one. -/
  | byte (high : Option Nat)
  /-- In front of the braces around a code point. -/
  | opening
  /-- In the digits of a code point: their number and their value so far. -/
  | code (count value : Nat)
  /-- In the blanks at the start of a line that continues the one before. -/
  | continued

/-- The character that a letter behind a backslash stands for. -/
def escapedChar : Char → Option Char
  | '0' => some '\x00'
  | 't' => some '\t'
  | 'r' => some '\r'
  | 'n' => some '\n'
  | '\\' => some '\\'
  | '"' => some '"'
  | '\x27' => some '\x27'
  | _ => none

/-- A character between others; a carriage return does not stand for itself. -/
def readPlain (c : Char) : Option (Option Char × LiteralPart) :=
  if c = '\\' then some (none, .escape)
  else if c = '\r' then none
  else some (some c, .between)

/-- Reads a character that does not end the literal: the character of the text that is complete with
    it, if there is one, and how far the literal has been read then. -/
def readStep (part : LiteralPart) (c : Char) : Option (Option Char × LiteralPart) :=
  match part with
  | .between => readPlain c
  | .continued =>
    if [' ', '\t', '\r', '\n'].contains c then some (none, .continued) else readPlain c
  | .escape =>
    if c = 'x' then some (none, .byte none)
    else if c = 'u' then some (none, .opening)
    else if c = '\n' then some (none, .continued)
    else (escapedChar c).map fun char => (some char, .between)
  | .byte none => (hexValue c).bind fun digit =>
    if digit < 8 then some (none, .byte (some digit)) else none
  | .byte (some high) => (hexValue c).map fun digit =>
    (some (Char.ofNat (16 * high + digit)), .between)
  | .opening => if c = '\x7b' then some (none, .code 0 0) else none
  | .code count value =>
    if c = '\x7d' then
      if 0 < count ∧ count ≤ 6 ∧ value.isValidChar then
        some (some (Char.ofNat value), .between)
      else none
    else if c = '_' then if 0 < count then some (none, .code count value) else none
    else (hexValue c).map fun digit => (none, .code (count + 1) (16 * value + digit))

/-- Whether a quote ends the literal. -/
def LiteralPart.isBetween : LiteralPart → Bool
  | .between | .continued => true
  | _ => false

/-- Reads the rest of a literal: the text that it stands for, and what stands behind it. -/
def readFrom (part : LiteralPart) : List Char → Option (List Char × List Char)
  | [] => none
  | c :: rest =>
    if part.isBetween && c == '"' then some ([], rest)
    else
      match readStep part c with
      | none => none
      | some (complete, next) =>
        (readFrom next rest).map fun read => (complete.toList ++ read.1, read.2)

/-- Reads a literal: the text that it stands for, and what stands behind it. -/
def readLiteral : List Char → Option (String × List Char)
  | '"' :: rest => (readFrom .between rest).map fun read => (String.ofList read.1, read.2)
  | _ => none

theorem readFrom_cons {part next : LiteralPart} {c : Char} {complete : Option Char}
    (hopen : (part.isBetween && c == '"') = false) (hstep : readStep part c = some (complete, next))
    (rest : List Char) :
    readFrom part (c :: rest) =
      (readFrom next rest).map fun read => (complete.toList ++ read.1, read.2) := by
  rw [readFrom, hopen, if_neg Bool.false_ne_true, hstep]

/-- A character that completes nothing only moves the reader on. -/
theorem readFrom_cons_none {part next : LiteralPart} {c : Char}
    (hopen : (part.isBetween && c == '"') = false) (hstep : readStep part c = some (none, next))
    (rest : List Char) : readFrom part (c :: rest) = readFrom next rest := by
  rw [readFrom_cons hopen hstep]
  exact Option.map_id'

/-! ## Code points -/

/-- A character of a number in base 16 is one of the sixteen digits. -/
theorem exists_digitChar_of_mem_hexDigits {n : Nat} {c : Char} (h : c ∈ hexDigits n) :
    ∃ k < 16, c = Nat.digitChar k := by
  induction n using Nat.strongRecOn with
  | ind n ih =>
      unfold hexDigits at h ih
      rw [Nat.toDigits_eq_if (by decide)] at h
      split at h
      · rename_i hsmall
        exact ⟨n, hsmall, List.mem_singleton.mp h⟩
      · rcases List.mem_append.mp h with hfront | hlast
        · exact ih (n / 16) (by omega) hfront
        · exact ⟨n % 16, by omega, List.mem_singleton.mp hlast⟩

theorem readStep_digitChar {k : Nat} (hk : k < 16) (count value : Nat) :
    readStep (.code count value) (Nat.digitChar k) =
      some (none, .code (count + 1) (16 * value + k)) := by
  have hmarks : ∀ k < 16, Nat.digitChar k ≠ '\x7d' ∧ Nat.digitChar k ≠ '_' := by decide
  obtain ⟨hclose, hunderscore⟩ := hmarks k hk
  simp only [readStep, if_neg hclose, if_neg hunderscore, hexValue_digitChar k hk, Option.map_some]

/-- The digits of a number are read as the number. -/
theorem readFrom_hexDigits (n : Nat) (rest : List Char) :
    readFrom (.code 0 0) (hexDigits n ++ rest) = readFrom (.code (hexDigits n).length n) rest := by
  induction n using Nat.strongRecOn generalizing rest with
  | ind n ih =>
      unfold hexDigits at ih ⊢
      rw [Nat.toDigits_eq_if (by decide)]
      split
      · rename_i hsmall
        have hstep := readStep_digitChar hsmall 0 0
        rw [Nat.mul_zero, Nat.zero_add, Nat.zero_add] at hstep
        exact readFrom_cons_none rfl hstep rest
      · -- The last digit comes behind those of the number without it
        rw [List.append_assoc, ih (n / 16) (by omega), List.length_append]
        have hstep := readStep_digitChar (k := n % 16) (by omega) (Nat.toDigits 16 (n / 16)).length
          (n / 16)
        rw [show 16 * (n / 16) + n % 16 = n by omega] at hstep
        exact readFrom_cons_none rfl hstep rest

theorem length_hexDigits_toNat (c : Char) :
    0 < (hexDigits c.toNat).length ∧ (hexDigits c.toNat).length ≤ 6 := by
  refine ⟨Nat.length_toDigits_pos, ?_⟩
  unfold hexDigits
  rw [Nat.length_toDigits_le_iff (by decide) (by decide)]
  have hvalid : c.toNat < 0x110000 := by
    rcases c.valid with hlow | hhigh
    · exact Nat.lt_trans hlow (by decide)
    · exact hhigh.2
  exact Nat.lt_trans hvalid (by decide)

/-! ## Literals -/

/-- A character is written as a letter behind a backslash that stands for it, as itself, or by its
    code point. -/
theorem escapeChar_cases (c : Char) :
    (∃ letter, escapeChar c = ['\\', letter] ∧ escapedChar letter = some c ∧
      isPlain letter = true) ∨
    (escapeChar c = [c] ∧ isPlain c = true ∧ c ≠ '\\' ∧ c ≠ '"') ∨
    escapeChar c = ['\\', 'u', '\x7b'] ++ hexDigits c.toNat ++ ['\x7d'] := by
  unfold escapeChar
  split_ifs with hnull htab hreturn hline hslash hquote hplain
  · exact .inl ⟨'0', rfl, congrArg some hnull.symm, rfl⟩
  · exact .inl ⟨'t', rfl, congrArg some htab.symm, rfl⟩
  · exact .inl ⟨'r', rfl, congrArg some hreturn.symm, rfl⟩
  · exact .inl ⟨'n', rfl, congrArg some hline.symm, rfl⟩
  · exact .inl ⟨'\\', rfl, congrArg some hslash.symm, rfl⟩
  · exact .inl ⟨'"', rfl, congrArg some hquote.symm, rfl⟩
  · exact .inr (.inl ⟨rfl, hplain, hslash, hquote⟩)
  · exact .inr (.inr rfl)

theorem toList_literal (text : String) :
    (literal text).toList = '"' :: (text.toList.flatMap escapeChar ++ ['"']) := by
  rw [literal, String.toList_ofList, literalChars]

/-- A character is read as itself. -/
theorem readFrom_escapeChar (c : Char) (rest : List Char) :
    readFrom .between (escapeChar c ++ rest) =
      (readFrom .between rest).map fun read => (c :: read.1, read.2) := by
  obtain ⟨letter, heq, hchar, -⟩ | ⟨heq, hplain, hslash, hquote⟩ | heq := escapeChar_cases c
  · -- Behind a backslash, a letter completes the character
    have hother : letter ≠ 'x' ∧ letter ≠ 'u' ∧ letter ≠ '\n' := by
      refine ⟨?_, ?_, ?_⟩ <;> rintro rfl <;> cases hchar
    have hstep : readStep .escape letter = some (some c, .between) := by
      simp [readStep, hother, hchar]
    rw [heq, List.cons_append, List.singleton_append, readFrom_cons_none rfl rfl,
      readFrom_cons rfl hstep]
    rfl
  · -- A character that stands for itself
    have hreturn : c ≠ '\r' := by
      rintro rfl
      cases hplain
    have hopen : (LiteralPart.between.isBetween && c == '"') = false := by
      simp [LiteralPart.isBetween, hquote]
    have hstep : readStep .between c = some (some c, .between) := by
      simp [readStep, readPlain, hslash, hreturn]
    rw [heq]
    exact readFrom_cons hopen hstep rest
  · -- A character that is written by its code point
    obtain ⟨hpos, hsix⟩ := length_hexDigits_toNat c
    have hstep : readStep (.code (hexDigits c.toNat).length c.toNat) '\x7d' =
        some (some c, .between) := by
      have hvalid : c.toNat.isValidChar := c.valid
      simp [readStep, hpos, hsix, hvalid, Char.ofNat_toNat]
    have hopening : ∀ rest, readFrom .between ('\\' :: 'u' :: '\x7b' :: rest) =
        readFrom (.code 0 0) rest := by
      intro rest
      rw [readFrom_cons_none rfl rfl, readFrom_cons_none rfl rfl, readFrom_cons_none rfl rfl]
    rw [heq, List.append_assoc, List.append_assoc]
    exact (hopening _).trans ((readFrom_hexDigits ..).trans (readFrom_cons rfl hstep rest))

theorem readFrom_flatMap_escapeChar (text rest : List Char) :
    readFrom .between (text.flatMap escapeChar ++ '"' :: rest) = some (text, rest) := by
  induction text with
  | nil => rfl
  | cons c text ih =>
      rw [List.flatMap_cons, List.append_assoc, readFrom_escapeChar, ih, Option.map_some]

/-- A literal is read as the text that it was made of, whatever stands behind it. -/
theorem readLiteral_append (text : String) (rest : List Char) :
    readLiteral ((literal text).toList ++ rest) = some (text, rest) := by
  rw [toList_literal, List.cons_append, List.append_assoc, List.singleton_append, readLiteral,
    readFrom_flatMap_escapeChar, Option.map_some, String.ofList_toList]

/-- A literal can be told from what follows it. -/
theorem literal_append_inj {text other : String} {rest rest' : List Char}
    (h : (literal text).toList ++ rest = (literal other).toList ++ rest') :
    text = other ∧ rest = rest' := by
  have hread : some (text, rest) = some (other, rest') := by
    rw [← readLiteral_append, h, readLiteral_append]
  exact Prod.mk.inj (Option.some.inj hread)

/-! ## The quote that ends a literal -/

/-- The place of the first quote that no backslash escapes: a backslash goes together with the
    character behind it. -/
def closingQuote? : List Char → Option Nat
  | [] => none
  | '\\' :: _ :: rest => (closingQuote? rest).map (· + 2)
  | c :: rest => if c = '"' then some 0 else (closingQuote? rest).map (· + 1)

/-- Behind the characters given, a literal goes on up to the quote that ends it without them. -/
def KeepsOpen (inside : List Char) : Prop :=
  ∀ rest, closingQuote? (inside ++ rest) = (closingQuote? rest).map (· + inside.length)

theorem keepsOpen_nil : KeepsOpen [] := fun _ => Option.map_id'.symm

theorem KeepsOpen.append {inside further : List Char} (h : KeepsOpen inside)
    (h' : KeepsOpen further) : KeepsOpen (inside ++ further) := by
  intro rest
  rw [List.append_assoc, h, h', Option.map_map, List.length_append]
  congr 1
  funext place
  simp only [Function.comp_apply]
  omega

theorem keepsOpen_singleton {c : Char} (hslash : c ≠ '\\') (hquote : c ≠ '"') : KeepsOpen [c] := by
  intro rest
  rw [List.singleton_append, closingQuote?, if_neg hquote, List.length_singleton]
  exact fun _ _ h => (hslash h).elim

theorem keepsOpen_escape (c : Char) : KeepsOpen ['\\', c] := fun _ => rfl

theorem keepsOpen_of_forall {inside : List Char} (h : ∀ c ∈ inside, c ≠ '\\' ∧ c ≠ '"') :
    KeepsOpen inside := by
  induction inside with
  | nil => exact keepsOpen_nil
  | cons c rest ih =>
      rw [List.forall_mem_cons] at h
      exact (keepsOpen_singleton h.1.1 h.1.2).append (ih h.2)

theorem keepsOpen_escapeChar (c : Char) : KeepsOpen (escapeChar c) := by
  obtain ⟨letter, heq, -⟩ | ⟨heq, -, hslash, hquote⟩ | heq := escapeChar_cases c
  · rw [heq]
    exact keepsOpen_escape letter
  · rw [heq]
    exact keepsOpen_singleton hslash hquote
  · -- The digits of a code point and the braces around them
    have hdigits : ∀ d ∈ hexDigits c.toNat, d ≠ '\\' ∧ d ≠ '"' := by
      intro d hd
      obtain ⟨k, hk, rfl⟩ := exists_digitChar_of_mem_hexDigits hd
      have hmarks : ∀ k < 16, Nat.digitChar k ≠ '\\' ∧ Nat.digitChar k ≠ '"' := by decide
      exact hmarks k hk
    have hopening : KeepsOpen ['\\', 'u', '\x7b'] :=
      (keepsOpen_escape 'u').append (keepsOpen_singleton (by decide) (by decide))
    rw [heq]
    exact (hopening.append (keepsOpen_of_forall hdigits)).append
      (keepsOpen_singleton (by decide) (by decide))

theorem keepsOpen_flatMap_escapeChar (text : List Char) : KeepsOpen (text.flatMap escapeChar) := by
  induction text with
  | nil => exact keepsOpen_nil
  | cons c text ih =>
      rw [List.flatMap_cons]
      exact (keepsOpen_escapeChar c).append ih

/-- Behind the quote that opens a literal, the first quote is the last character. -/
theorem closingQuote?_literal (text : String) :
    closingQuote? (literal text).toList.tail = some ((literal text).toList.tail.length - 1) := by
  have hinside := keepsOpen_flatMap_escapeChar text.toList ['"']
  rw [toList_literal, List.tail_cons, hinside]
  simp [closingQuote?]

/-! ## The characters of a literal -/

theorem isPlain_of_mem_escapeChar {c shown : Char} (h : shown ∈ escapeChar c) :
    isPlain shown = true := by
  obtain ⟨letter, heq, -, hletter⟩ | ⟨heq, hplain, -⟩ | heq := escapeChar_cases c
  · rw [heq, List.mem_cons, List.mem_singleton] at h
    rcases h with rfl | rfl
    · rfl
    · exact hletter
  · rw [heq, List.mem_singleton] at h
    exact h ▸ hplain
  · have hopening : ['\\', 'u', '\x7b'].all isPlain = true := by decide
    have hdigits : ∀ k < 16, isPlain (Nat.digitChar k) = true := by decide
    rw [heq, List.mem_append, List.mem_append, List.mem_singleton] at h
    rcases h with (hfirst | hdigit) | rfl
    · exact List.all_eq_true.mp hopening shown hfirst
    · obtain ⟨k, hk, rfl⟩ := exists_digitChar_of_mem_hexDigits hdigit
      exact hdigits k hk
    · rfl

/-- Every character of a literal shows as itself. -/
theorem isPlain_of_mem_literal {text : String} {shown : Char} (h : shown ∈ (literal text).toList) :
    isPlain shown = true := by
  rw [toList_literal, List.mem_cons, List.mem_append, List.mem_singleton, List.mem_flatMap] at h
  rcases h with rfl | ⟨c, -, hmem⟩ | rfl
  · decide
  · exact isPlain_of_mem_escapeChar hmem
  · decide

/-- A literal stays on its line. -/
theorem lineFeed_not_mem_literal (text : String) : '\n' ∉ (literal text).toList := by
  intro h
  have hnone : isPlain '\n' = false := by decide
  exact Bool.false_ne_true (hnone.symm.trans (isPlain_of_mem_literal h))

end Wiring.Text
