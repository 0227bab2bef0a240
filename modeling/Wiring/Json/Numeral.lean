/-
  Wiring.Json.Numeral

  Numbers as they stand in a JSON text, and the value that reading gives them: an integer where
  the text has neither fraction nor exponent and fits 64 bits, a floating-point number otherwise.
-/

import Wiring.Number.Shortest

namespace Wiring.Json

/-- The parts of a written number; the digits are kept as characters. -/
structure Numeral where
  negative : Bool := false
  /-- The digits before the point. -/
  whole : List Char
  /-- The digits behind the point, none where there is no point. -/
  fraction : List Char := []
  /-- The sign (true for minus) and the digits of the exponent. -/
  exponent : Option (Bool × List Char) := none
deriving DecidableEq

namespace Numeral

/-- What a number is read as. -/
inductive Value where
  | integer (value : Int)
  | float (negative : Bool) (magnitude : Binary64)
  /-- Larger than every floating-point number. -/
  | tooLarge
deriving DecidableEq

/-- The value of a digit. -/
def digitValue (c : Char) : Nat := c.toNat - '0'.toNat

/-- Appends digits to a number as long as it stays below `2 ^ 64`. The second part counts the
    digits that were appended, the third those from the first that did not fit. -/
def takeDigits (number : Nat) : List Char → Nat × Nat × Nat
  | [] => (number, 0, 0)
  | c :: rest =>
    let next := number * 10 + digitValue c
    if next < Nat.pow 2 64 then
      let (final, taken, left) := takeDigits next rest
      (final, taken + 1, left)
    else (number, 0, rest.length + 1)

/-- The floating-point number `significand * 10 ^ exponent`. -/
def float (negative : Bool) (significand : Nat) (exponent : Int) : Value :=
  match (Binary64.ofQuotient significand 1).bind (·.scale exponent) with
  | some magnitude => .float negative magnitude
  | none => .tooLarge

/-- An integer keeps its value between `-2 ^ 63` and `2 ^ 64 - 1`; minus zero is no integer. -/
def ofInteger (negative : Bool) (significand : Nat) : Value :=
  if !negative then .integer significand
  else if 0 < significand ∧ significand ≤ Nat.pow 2 63 then .integer (-(significand : Int))
  else float true significand 0

/-- The value of a written number. Digits that do not fit 64 bits count by their place only. -/
def value (n : Numeral) : Value :=
  let (whole, _, dropped) := takeDigits 0 n.whole
  if dropped = 0 ∧ n.fraction.isEmpty ∧ n.exponent.isNone then ofInteger n.negative whole
  else
    let (significand, taken, _) := takeDigits whole n.fraction
    let place : Int := (dropped : Int) - taken
    match n.exponent with
    | none => float n.negative significand place
    | some (minus, digits) =>
      let size : Int := (digits.foldl (fun e c => e * 10 + digitValue c) 0 : Nat)
      float n.negative significand (if minus then place - size else place + size)

end Numeral
end Wiring.Json
