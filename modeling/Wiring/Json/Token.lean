/-
  Wiring.Json.Token

  Cutting a JSON text into tokens, one character at a time. The first character that no token can
  contain ends the list with `bad`, and so does a token that the end of the text cuts short.
-/

import Wiring.Json.Numeral

namespace Wiring.Json

/-- The tokens of a JSON text. -/
inductive Token where
  | openArray
  | closeArray
  | openObject
  | closeObject
  | comma
  | colon
  | null
  | bool (value : Bool)
  | number (value : Numeral)
  | text (value : String)
  /-- A string that is written correctly but names half of a surrogate pair: it is no text. -/
  | unpaired
  /-- The text stops being JSON here. -/
  | bad
deriving DecidableEq

/-! ## Strings -/

/-- A piece of a string: a character, or one half of a surrogate pair written as an escape. -/
inductive StringPiece where
  | char (c : Char)
  | half (code : Nat)
deriving DecidableEq

/-- The piece that an escape of four hexadecimal digits writes. -/
def StringPiece.ofCode (code : Nat) : StringPiece :=
  if 0xd800 ≤ code ∧ code < 0xe000 then .half code else .char (Char.ofNat code)

/-- Joins the halves of surrogate pairs; `none` where a half stands alone. -/
def joinPieces : List StringPiece → Option (List Char)
  | [] => some []
  | .char c :: rest => (joinPieces rest).map (c :: ·)
  | .half high :: .half low :: rest =>
    if high < 0xdc00 ∧ 0xdc00 ≤ low then
      (joinPieces rest).map
        (Char.ofNat (0x10000 + (high - 0xd800) * 0x400 + (low - 0xdc00)) :: ·)
    else none
  | .half _ :: _ => none

/-- The token of a complete string, given its pieces in reverse. -/
def Token.ofPieces (pieces : List StringPiece) : Token :=
  match joinPieces pieces.reverse with
  | some cs => .text (String.ofList cs)
  | none => .unpaired

/-- The character that an escape of one letter stands for. -/
def escapedLetter : Char → Option Char
  | '"' => some '"'
  | '\\' => some '\\'
  | '/' => some '/'
  | 'b' => some '\x08'
  | 'f' => some '\x0c'
  | 'n' => some '\n'
  | 'r' => some '\r'
  | 't' => some '\t'
  | _ => none

/-- The value of a hexadecimal digit in either case. -/
def hexValue (c : Char) : Option Nat :=
  if '0' ≤ c ∧ c ≤ '9' then some (c.toNat - '0'.toNat)
  else if 'a' ≤ c ∧ c ≤ 'f' then some (c.toNat - 'a'.toNat + 10)
  else if 'A' ≤ c ∧ c ≤ 'F' then some (c.toNat - 'A'.toNat + 10)
  else none

/-! ## The scanner -/

/-- How far a number has been read. -/
inductive NumeralPart where
  /-- Behind the minus sign. -/
  | sign
  /-- Behind a zero, which no digit may follow. -/
  | zero
  | whole
  /-- Behind the point. -/
  | point
  | fraction
  /-- Behind the letter of the exponent. -/
  | mark
  /-- Behind the sign of the exponent. -/
  | markSign
  | exponent
deriving DecidableEq

/-- What the scanner is in the middle of. -/
inductive Scan where
  | between
  /-- A word of which the given characters are still due. -/
  | word (due : List Char) (token : Token)
  /-- A string with the given pieces so far, last first. -/
  | string (pieces : List StringPiece)
  /-- A string, behind a backslash. -/
  | escape (pieces : List StringPiece)
  /-- A string, inside an escape by code point with the given number of digits due. -/
  | code (pieces : List StringPiece) (due : Nat) (value : Nat)
  | number (part : NumeralPart) (numeral : Numeral)
deriving DecidableEq

/-- What one character does: the tokens it completes, and how the scan goes on; `none` where the
    character belongs to no token. -/
abbrev ScanStep := List Token × Option Scan

/-- A character between tokens. -/
def scanBetween (c : Char) : Option (Option Token × Scan) :=
  if c = ' ' ∨ c = '\n' ∨ c = '\t' ∨ c = '\r' then some (none, .between)
  else if c = '[' then some (some .openArray, .between)
  else if c = ']' then some (some .closeArray, .between)
  else if c = '\x7b' then some (some .openObject, .between)
  else if c = '\x7d' then some (some .closeObject, .between)
  else if c = ',' then some (some .comma, .between)
  else if c = ':' then some (some .colon, .between)
  else if c = '"' then some (none, .string [])
  else if c = 'n' then some (none, .word ['u', 'l', 'l'] .null)
  else if c = 't' then some (none, .word ['r', 'u', 'e'] (.bool true))
  else if c = 'f' then some (none, .word ['a', 'l', 's', 'e'] (.bool false))
  else if c = '-' then some (none, .number .sign ⟨true, [], [], none⟩)
  else if c = '0' then some (none, .number .zero ⟨false, ['0'], [], none⟩)
  else if c.isDigit then some (none, .number .whole ⟨false, [c], [], none⟩)
  else none

/-- A number read to its end; the digits are collected in reverse. -/
def Numeral.finish (n : Numeral) : Numeral where
  negative := n.negative
  whole := n.whole.reverse
  fraction := n.fraction.reverse
  exponent := n.exponent.map fun e => (e.1, e.2.reverse)

/-- The number with one more digit in its exponent. -/
def Numeral.pushExponent (n : Numeral) (c : Char) : Numeral :=
  { n with exponent := n.exponent.map fun e => (e.1, c :: e.2) }

/-- Whether a number may end where it has been read to. -/
def NumeralPart.isEnd : NumeralPart → Bool
  | .zero | .whole | .fraction | .exponent => true
  | .sign | .point | .mark | .markSign => false

/-- The number with one more character, or `none` where the character is no part of it. -/
def extendNumeral (part : NumeralPart) (n : Numeral) (c : Char) : Option (NumeralPart × Numeral) :=
  match part with
  | .sign =>
    if c = '0' then some (.zero, { n with whole := ['0'] })
    else if c.isDigit then some (.whole, { n with whole := [c] })
    else none
  | .zero => fractionOrMark
  | .whole =>
    if c.isDigit then some (.whole, { n with whole := c :: n.whole }) else fractionOrMark
  | .point =>
    if c.isDigit then some (.fraction, { n with fraction := [c] }) else none
  | .fraction =>
    if c.isDigit then some (.fraction, { n with fraction := c :: n.fraction })
    else if c = 'e' ∨ c = 'E' then some (.mark, { n with exponent := some (false, []) })
    else none
  | .mark =>
    if c = '+' then some (.markSign, n)
    else if c = '-' then some (.markSign, { n with exponent := some (true, []) })
    else if c.isDigit then some (.exponent, n.pushExponent c)
    else none
  | .markSign => if c.isDigit then some (.exponent, n.pushExponent c) else none
  | .exponent => if c.isDigit then some (.exponent, n.pushExponent c) else none
where
  /-- Behind the digits before the point. -/
  fractionOrMark : Option (NumeralPart × Numeral) :=
    if c = '.' then some (.point, n)
    else if c = 'e' ∨ c = 'E' then some (.mark, { n with exponent := some (false, []) })
    else none

/-- What one character does to the scan. A number ends with the first character that is no part of
    it, which then stands between tokens; a zero that a digit follows is no number. -/
def scanChar (scan : Scan) (c : Char) : ScanStep :=
  match scan with
  | .between =>
    match scanBetween c with
    | some (token, next) => (token.toList, some next)
    | none => ([], none)
  | .word [] token => ([token], none)
  | .word [last] token => if c = last then ([token], some .between) else ([], none)
  | .word (due :: rest) token => if c = due then ([], some (.word rest token)) else ([], none)
  | .string pieces =>
    if c = '"' then ([Token.ofPieces pieces], some .between)
    else if c = '\\' then ([], some (.escape pieces))
    else if c.toNat < 0x20 then ([], none)
    else ([], some (.string (.char c :: pieces)))
  | .escape pieces =>
    if c = 'u' then ([], some (.code pieces 4 0))
    else
      match escapedLetter c with
      | some letter => ([], some (.string (.char letter :: pieces)))
      | none => ([], none)
  | .code pieces due value =>
    match hexValue c with
    | none => ([], none)
    | some digit =>
      let value := value * 16 + digit
      if due ≤ 1 then ([], some (.string (StringPiece.ofCode value :: pieces)))
      else ([], some (.code pieces (due - 1) value))
  | .number part n =>
    match extendNumeral part n c with
    | some (part, n) => ([], some (.number part n))
    | none =>
      if !part.isEnd || (part = .zero && c.isDigit) then ([], none)
      else
        match scanBetween c with
        | some (token, next) => (.number n.finish :: token.toList, some next)
        | none => ([.number n.finish], none)

/-- What the end of the text completes. -/
def scanEnd : Scan → List Token
  | .between => []
  | .number part n => if part.isEnd then [.number n.finish] else [.bad]
  | _ => [.bad]

/-- The tokens of a text in the middle of a scan. -/
def tokensFrom (scan : Scan) : List Char → List Token
  | [] => scanEnd scan
  | c :: rest =>
    match scanChar scan c with
    | (tokens, some next) => tokens ++ tokensFrom next rest
    | (tokens, none) => tokens ++ [.bad]

/-- The tokens of a text. -/
def tokens (text : String) : List Token := tokensFrom .between text.toList

end Wiring.Json
