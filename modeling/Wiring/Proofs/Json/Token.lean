/-
  Wiring.Proofs.Json.Token

  Cutting a written value into tokens. The tokens are those that the value itself tells: no
  character of a text ends the quotes around it, white space leaves no token, and a number ends
  where the writer goes on, with a comma or a new line.
-/

import Wiring.Json.Printer
import Wiring.Proofs.Json.Numeral
import Mathlib.Tactic.SplitIfs

namespace Wiring.Json

/-! ## The tokens of a value -/

mutual

/-- The tokens of a written value. -/
def tokensOf : Json → List Token
  | .null => [.null]
  | .bool value => [.bool value]
  | .number value => [.number (.ofInt value)]
  | .text value => [.text value]
  | .array [] => [.openArray, .closeArray]
  | .array (item :: rest) => .openArray :: (tokensOf item ++ tokensOfItems rest ++ [.closeArray])
  | .object [] => [.openObject, .closeObject]
  | .object ((name, value) :: rest) =>
    .openObject :: .text name :: .colon ::
      (tokensOf value ++ tokensOfFields rest ++ [.closeObject])

/-- The tokens of the items after the first. -/
def tokensOfItems : List Json → List Token
  | [] => []
  | item :: rest => .comma :: (tokensOf item ++ tokensOfItems rest)

/-- The tokens of the fields after the first. -/
def tokensOfFields : List (String × Json) → List Token
  | [] => []
  | (name, value) :: rest =>
    .comma :: .text name :: .colon :: (tokensOf value ++ tokensOfFields rest)

end

/-! ## Texts -/

theorem hexValue_digitChar : ∀ k, k < 16 → hexValue (Nat.digitChar k) = some k := by decide

/-- A character that is escaped by code point is no half of a surrogate pair. -/
theorem StringPiece.ofCode_toNat {c : Char} (h : c.toNat < 0x20) : ofCode c.toNat = .char c := by
  have hsmall : ¬ (0xd800 ≤ c.toNat ∧ c.toNat < 0xe000) := by omega
  rw [ofCode, if_neg hsmall, Char.ofNat_toNat]

/-- A quoted character is read as itself. -/
theorem tokensFrom_quoteChar (pieces : List StringPiece) (c : Char) (rest : List Char) :
    tokensFrom (.string pieces) (quoteChar c ++ rest) =
      tokensFrom (.string (.char c :: pieces)) rest := by
  unfold quoteChar
  split_ifs with hquote hslash hback htab hline hfeed hreturn hcontrol
  · subst hquote
    rfl
  · subst hslash
    rfl
  · subst hback
    rfl
  · subst htab
    rfl
  · subst hline
    rfl
  · subst hfeed
    rfl
  · subst hreturn
    rfl
  · -- Two zeros and the two digits of the code point
    have hhigh := hexValue_digitChar (c.toNat / 16) (by omega)
    have hlow := hexValue_digitChar (c.toNat % 16) (by omega)
    have hcode : c.toNat / 16 * 16 + c.toNat % 16 = c.toNat := by omega
    have hzeros : tokensFrom (.string pieces) (['\\', 'u', '0', '0', Nat.digitChar (c.toNat / 16),
        Nat.digitChar (c.toNat % 16)] ++ rest) =
          tokensFrom (.code pieces 2 0) (Nat.digitChar (c.toNat / 16) ::
            Nat.digitChar (c.toNat % 16) :: rest) := rfl
    rw [hzeros]
    simp [tokensFrom, scanChar, hhigh, hlow, hcode, StringPiece.ofCode_toNat hcontrol]
  · simp [tokensFrom, scanChar, hquote, hslash, hcontrol]

theorem tokensFrom_quoteChars (pieces : List StringPiece) (cs rest : List Char) :
    tokensFrom (.string pieces) (cs.flatMap quoteChar ++ rest) =
      tokensFrom (.string ((cs.map .char).reverse ++ pieces)) rest := by
  induction cs generalizing pieces with
  | nil => rfl
  | cons c cs ih =>
      rw [List.flatMap_cons, List.append_assoc, tokensFrom_quoteChar, ih]
      simp

theorem joinPieces_map_char (cs : List Char) : joinPieces (cs.map .char) = some cs := by
  induction cs with
  | nil => rfl
  | cons c cs ih => rw [List.map_cons, joinPieces, ih, Option.map_some]

/-- A quoted text is one token. -/
theorem tokensFrom_quote (text : String) (rest : List Char) :
    tokensFrom .between ((quote text).toList ++ rest) = .text text :: tokensFrom .between rest := by
  have hopen : tokensFrom .between ((quote text).toList ++ rest) =
      tokensFrom (.string []) (text.toList.flatMap quoteChar ++ '"' :: rest) := by
    rw [quote, String.toList_ofList, List.cons_append, List.append_assoc]
    rfl
  have hclose : ∀ pieces, tokensFrom (.string pieces) ('"' :: rest) =
      Token.ofPieces pieces :: tokensFrom .between rest := fun _ => rfl
  have htext : Token.ofPieces ((text.toList.map .char).reverse ++ []) = .text text := by
    rw [Token.ofPieces, List.append_nil, List.reverse_reverse, joinPieces_map_char]
    exact congrArg Token.text String.ofList_toList
  rw [hopen, tokensFrom_quoteChars, hclose, htext]

/-! ## Numbers -/

/-- The text ends, or goes on with a comma or a new line. -/
def EndsNumber (rest : List Char) : Prop := ∀ c, rest.head? = some c → c = ',' ∨ c = '\n'

theorem endsNumber_newLine (level : Nat) (rest : List Char) :
    EndsNumber ((newLine level).toList ++ rest) := by
  intro c hc
  rw [newLine, String.toList_ofList] at hc
  exact .inr (Option.some.inj hc).symm

/-- A number ends where the writer goes on. -/
theorem tokensFrom_number_end {part : NumeralPart} (hpart : part = .zero ∨ part = .whole)
    (n : Numeral) {rest : List Char} (hrest : EndsNumber rest) :
    tokensFrom (.number part n) rest = .number n.finish :: tokensFrom .between rest := by
  -- Neither a comma nor a new line is part of a number, and both stand between tokens
  cases rest with
  | nil => rcases hpart with rfl | rfl <;> rfl
  | cons c rest =>
      rcases hrest c rfl with rfl | rfl <;> rcases hpart with rfl | rfl <;> rfl

/-- Digits are collected, last first. -/
theorem tokensFrom_digits {digits : List Char} (hdigits : ∀ c ∈ digits, c.isDigit = true)
    (n : Numeral) (rest : List Char) :
    tokensFrom (.number .whole n) (digits ++ rest) =
      tokensFrom (.number .whole { n with whole := digits.reverse ++ n.whole }) rest := by
  induction digits generalizing n with
  | nil => rfl
  | cons c digits ih =>
      have hc : c.isDigit = true := hdigits c (List.mem_cons_self ..)
      have hstep : tokensFrom (.number .whole n) (c :: (digits ++ rest)) =
          tokensFrom (.number .whole { n with whole := c :: n.whole }) (digits ++ rest) := by
        simp [tokensFrom, scanChar, extendNumeral, hc]
      rw [List.cons_append, hstep, ih fun d hd => hdigits d (List.mem_cons_of_mem _ hd)]
      simp

/-- What starts with a digit other than zero goes on as the digits before the point. -/
theorem scanBetween_digitChar : ∀ k, k < 10 → 0 < k →
    scanBetween (Nat.digitChar k) =
      some (none, .number .whole ⟨false, [Nat.digitChar k], [], none⟩) := by
  decide

theorem extendNumeral_sign_digitChar : ∀ k, k < 10 → 0 < k →
    extendNumeral .sign ⟨true, [], [], none⟩ (Nat.digitChar k) =
      some (.whole, ⟨true, [Nat.digitChar k], [], none⟩) := by
  decide

/-- The digits of a number are one token, be it behind a minus sign or not. -/
theorem tokensFrom_toDigits (negative : Bool) (m : Nat) {rest : List Char}
    (hrest : EndsNumber rest) :
    tokensFrom (if negative then .number .sign ⟨true, [], [], none⟩ else .between)
        (Nat.toDigits 10 m ++ rest) =
      .number { negative, whole := Nat.toDigits 10 m } :: tokensFrom .between rest := by
  by_cases hpos : 0 < m
  · obtain ⟨k, digits, hk, hless, hm⟩ := Numeral.exists_first_digit hpos
    have hall : ∀ c ∈ digits, c.isDigit = true := fun c hc =>
      Nat.isDigit_of_mem_toDigits (by decide) (by decide) (hm ▸ List.mem_cons_of_mem _ hc)
    have hfirst : tokensFrom (if negative then .number .sign ⟨true, [], [], none⟩ else .between)
        (Nat.digitChar k :: (digits ++ rest)) =
          tokensFrom (.number .whole ⟨negative, [Nat.digitChar k], [], none⟩) (digits ++ rest) := by
      cases negative with
      | false => simp [tokensFrom, scanChar, scanBetween_digitChar k hless hk]
      | true => simp [tokensFrom, scanChar, extendNumeral_sign_digitChar k hless hk]
    rw [hm, List.cons_append, hfirst, tokensFrom_digits hall,
      tokensFrom_number_end (.inr rfl) _ hrest]
    simp [Numeral.finish]
  · -- Zero is a number of its own
    obtain rfl : m = 0 := by omega
    have hzero : tokensFrom (if negative then .number .sign ⟨true, [], [], none⟩ else .between)
        ('0' :: rest) = tokensFrom (.number .zero ⟨negative, ['0'], [], none⟩) rest := by
      cases negative <;> rfl
    rw [Nat.toDigits_zero, List.singleton_append, hzero,
      tokensFrom_number_end (.inl rfl) _ hrest]
    rfl

theorem tokensFrom_toString (value : Int) {rest : List Char} (hrest : EndsNumber rest) :
    tokensFrom .between ((toString value).toList ++ rest) =
      .number (.ofInt value) :: tokensFrom .between rest := by
  rw [Int.toString_eq_repr, Int.repr_eq_if, Numeral.ofInt]
  by_cases hnonneg : 0 ≤ value
  · have hmagnitude : value.toNat = value.natAbs := by omega
    have hsign : decide (value < 0) = false := decide_eq_false (by omega)
    rw [if_pos hnonneg, hmagnitude, hsign, Nat.toList_repr]
    exact tokensFrom_toDigits false _ hrest
  · have hmagnitude : (-value).toNat = value.natAbs := by omega
    have hsign : decide (value < 0) = true := decide_eq_true (by omega)
    rw [if_neg hnonneg, hmagnitude, hsign, String.toList_append, Nat.toList_repr]
    exact tokensFrom_toDigits true _ hrest

/-! ## Values -/

theorem tokensFrom_spaces (count : Nat) (rest : List Char) :
    tokensFrom .between (List.replicate count ' ' ++ rest) = tokensFrom .between rest := by
  induction count with
  | zero => rfl
  | succ count ih =>
      rw [List.replicate_succ, List.cons_append, ← ih]
      rfl

theorem tokensFrom_newLine (level : Nat) (rest : List Char) :
    tokensFrom .between ((newLine level).toList ++ rest) = tokensFrom .between rest := by
  rw [newLine, String.toList_ofList, List.cons_append, ← tokensFrom_spaces (2 * level) rest]
  rfl

theorem tokensFrom_comma (rest : List Char) :
    tokensFrom .between (",".toList ++ rest) = .comma :: tokensFrom .between rest := rfl

theorem tokensFrom_colon (rest : List Char) :
    tokensFrom .between (": ".toList ++ rest) = .colon :: tokensFrom .between rest := rfl

/-- Behind an item, and likewise behind a field, the writer goes on with a comma or a new line. -/
theorem endsNumber_prettyItems (level level' : Nat) (items : List Json) (rest : List Char) :
    EndsNumber ((prettyItems level items).toList ++ ((newLine level').toList ++ rest)) := by
  cases items with
  | nil => exact endsNumber_newLine level' rest
  | cons item items =>
      intro c hc
      rw [prettyItems] at hc
      simp only [String.toList_append, List.append_assoc] at hc
      exact .inl (Option.some.inj hc).symm

theorem endsNumber_prettyFields (level level' : Nat) (fields : List (String × Json))
    (rest : List Char) :
    EndsNumber ((prettyFields level fields).toList ++ ((newLine level').toList ++ rest)) := by
  cases fields with
  | nil => exact endsNumber_newLine level' rest
  | cons field fields =>
      intro c hc
      rw [prettyFields] at hc
      simp only [String.toList_append, List.append_assoc] at hc
      exact .inl (Option.some.inj hc).symm

mutual

/-- A written value is cut into its tokens. -/
theorem tokensFrom_prettyAt (level : Nat) :
    (value : Json) → (rest : List Char) → EndsNumber rest →
      tokensFrom .between ((prettyAt level value).toList ++ rest) =
        tokensOf value ++ tokensFrom .between rest
  | .null, _, _ => by
      rw [prettyAt, tokensOf]
      rfl
  | .bool true, _, _ => by
      rw [prettyAt, tokensOf]
      rfl
  | .bool false, _, _ => by
      rw [prettyAt, tokensOf]
      rfl
  | .number value, rest, hrest => by
      rw [prettyAt, tokensOf]
      exact tokensFrom_toString value hrest
  | .text value, rest, _ => by
      rw [prettyAt, tokensOf]
      exact tokensFrom_quote value rest
  | .array [], _, _ => by
      rw [prettyAt, tokensOf]
      rfl
  | .array (item :: items), rest, _ => by
      have hopen : ∀ r, tokensFrom .between ("[".toList ++ r) =
          .openArray :: tokensFrom .between r := fun _ => rfl
      have hclose : tokensFrom .between ("]".toList ++ rest) =
          .closeArray :: tokensFrom .between rest := rfl
      rw [prettyAt, tokensOf]
      -- The text falls into the pieces that the writer joins
      simp only [String.toList_append, List.append_assoc]
      rw [hopen, tokensFrom_newLine,
        tokensFrom_prettyAt (level + 1) item _ (endsNumber_prettyItems _ _ _ _),
        tokensFrom_prettyItems (level + 1) level items, tokensFrom_newLine, hclose]
      simp
  | .object [], _, _ => by
      rw [prettyAt, tokensOf]
      rfl
  | .object ((name, value) :: fields), rest, _ => by
      have hopen : ∀ r, tokensFrom .between ("\x7b".toList ++ r) =
          .openObject :: tokensFrom .between r := fun _ => rfl
      have hclose : tokensFrom .between ("\x7d".toList ++ rest) =
          .closeObject :: tokensFrom .between rest := rfl
      rw [prettyAt, tokensOf]
      simp only [String.toList_append, List.append_assoc]
      rw [hopen, tokensFrom_newLine, tokensFrom_quote, tokensFrom_colon,
        tokensFrom_prettyAt (level + 1) value _ (endsNumber_prettyFields _ _ _ _),
        tokensFrom_prettyFields (level + 1) level fields, tokensFrom_newLine, hclose]
      simp

/-- The written items after the first are cut into their tokens. -/
theorem tokensFrom_prettyItems (level level' : Nat) :
    (items : List Json) → (rest : List Char) →
      tokensFrom .between ((prettyItems level items).toList ++
          ((newLine level').toList ++ rest)) =
        tokensOfItems items ++ tokensFrom .between ((newLine level').toList ++ rest)
  | [], _ => by
      rw [prettyItems, tokensOfItems]
      rfl
  | item :: items, rest => by
      rw [prettyItems, tokensOfItems]
      simp only [String.toList_append, List.append_assoc]
      rw [tokensFrom_comma, tokensFrom_newLine,
        tokensFrom_prettyAt level item _ (endsNumber_prettyItems _ _ _ _),
        tokensFrom_prettyItems level level' items]
      simp

/-- The written fields after the first are cut into their tokens. -/
theorem tokensFrom_prettyFields (level level' : Nat) :
    (fields : List (String × Json)) → (rest : List Char) →
      tokensFrom .between ((prettyFields level fields).toList ++
          ((newLine level').toList ++ rest)) =
        tokensOfFields fields ++ tokensFrom .between ((newLine level').toList ++ rest)
  | [], _ => by
      rw [prettyFields, tokensOfFields]
      rfl
  | (name, value) :: fields, rest => by
      rw [prettyFields, tokensOfFields]
      simp only [String.toList_append, List.append_assoc]
      rw [tokensFrom_comma, tokensFrom_newLine, tokensFrom_quote, tokensFrom_colon,
        tokensFrom_prettyAt level value _ (endsNumber_prettyFields _ _ _ _),
        tokensFrom_prettyFields level level' fields]
      simp

end

/-- The tokens of the text of a value are those of the value, whatever blanks follow. -/
theorem tokens_pretty_append (value : Json) (blanks : String) (hends : EndsNumber blanks.toList)
    (hblanks : tokensFrom .between blanks.toList = []) :
    tokens (value.pretty ++ blanks) = tokensOf value := by
  have hcut := tokensFrom_prettyAt 0 value blanks.toList hends
  rw [hblanks, List.append_nil, ← String.toList_append] at hcut
  exact hcut

/-- The tokens of the text of a value are those of the value. -/
theorem tokens_pretty (value : Json) : tokens value.pretty = tokensOf value := by
  have hcut := tokens_pretty_append value "" nofun rfl
  rwa [String.append_empty] at hcut

theorem tokens_pretty_lineFeed (value : Json) : tokens (value.pretty ++ "\n") = tokensOf value :=
  tokens_pretty_append value "\n" (fun _ hc => .inr (Option.some.inj hc).symm) rfl

end Wiring.Json
