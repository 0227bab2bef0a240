/-
  Wiring.Text.Literal

  String literals of generated source. A literal stands between double quotes; a quote, a
  backslash and the common control characters are written with a backslash, and every other
  character that would not show as itself is written by its code point, so that a literal never
  leaves its line and never ends early.
-/

import Wiring.Text.Printable

namespace Wiring.Text

/-- The digits of a number in base 16, in small letters. -/
def hexDigits (n : Nat) : List Char := Nat.toDigits 16 n

/-- One character inside a literal. -/
def escapeChar (c : Char) : List Char :=
  if c = '\x00' then ['\\', '0']
  else if c = '\t' then ['\\', 't']
  else if c = '\r' then ['\\', 'r']
  else if c = '\n' then ['\\', 'n']
  else if c = '\\' then ['\\', '\\']
  else if c = '"' then ['\\', '"']
  else if isPlain c then [c]
  else ['\\', 'u', '\x7b'] ++ hexDigits c.toNat ++ ['\x7d']

/-- The characters of a literal. -/
def literalChars (text : List Char) : List Char := '"' :: (text.flatMap escapeChar ++ ['"'])

/-- A text as a string literal. -/
def literal (text : String) : String := String.ofList (literalChars text.toList)

end Wiring.Text
