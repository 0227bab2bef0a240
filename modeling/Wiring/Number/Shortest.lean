/-
  Wiring.Number.Shortest

  The shortest decimal that reads back as a given 64-bit magnitude. The magnitudes between two
  neighbours' midpoints read back as the magnitude itself, the midpoints included where its
  mantissa is even; of the coarsest decimal grid with a point there, the nearest point is taken,
  a tie going to the even digit.
-/

import Wiring.Number.Binary64

namespace Wiring.Binary64

/-- The least `n` with `value < 10 ^ n`, where `value = num / den < 1` and `num` is positive,
    counted downwards from zero for at most `fuel` places. -/
def leadingZeros (num den : Nat) : Nat → Nat
  | 0 => 0
  | fuel + 1 => if num * 10 < den then leadingZeros (num * 10) den fuel + 1 else 0

/-- The number of digits before the decimal point of `num / den`; minus the number of zeros
    behind it for a quotient below one. -/
def pointPlace (num den : Nat) : Int :=
  if num / den = 0 then -(leadingZeros num den 400 : Int)
  else (Nat.toDigits 10 (num / den)).length

/-- `digit * 10 ^ place`, compared with quarters of the last binary place: `(n, d)` stands for
    the quotient of the decimal by a quarter of `2 ^ exponent`. -/
def inQuarters (x : Binary64) (digits : Nat) (place : Int) : Nat × Nat :=
  shifted (digits * Nat.pow 10 place.toNat) (Nat.pow 10 (-place).toNat) (2 - x.exponent)

/-- Whether a decimal reads back as the magnitude. -/
def readsBack (x : Binary64) (digits : Nat) (place : Int) : Bool :=
  let (n, d) := x.inQuarters digits place
  let middle := 4 * x.mantissa
  let low := if x.mantissa = Nat.pow 2 52 && -1074 < x.exponent then middle - 1 else middle - 2
  let high := middle + 2
  if x.mantissa % 2 = 0 then low * d ≤ n && n ≤ high * d else low * d < n && n < high * d

/-- The distance of a decimal from the magnitude, over the denominator of `inQuarters`. -/
def distance (x : Binary64) (digits : Nat) (place : Int) : Nat :=
  let (n, d) := x.inQuarters digits place
  max n (4 * x.mantissa * d) - min n (4 * x.mantissa * d)

/-- The point of the grid of multiples of `10 ^ place` nearest to the magnitude that reads back
    as it, if any does. -/
def gridPoint (x : Binary64) (place : Int) : Option Nat :=
  let (n, d) := shifted (x.mantissa * Nat.pow 10 (-place).toNat) (Nat.pow 10 place.toNat) x.exponent
  let below := n / d
  match x.readsBack below place, x.readsBack (below + 1) place with
  | false, false => none
  | true, false => some below
  | false, true => some (below + 1)
  | true, true =>
    let down := x.distance below place
    let up := x.distance (below + 1) place
    if down < up then some below
    else if up < down then some (below + 1)
    else some (below + below % 2)

/-- The first grid with a point that reads back, from one digit to seventeen. -/
def shortestFrom (x : Binary64) (point : Int) : List Nat → Nat × Int
  | [] => (0, 0)
  | length :: rest =>
    match x.gridPoint (point - length) with
    | some digits => (digits, point - length)
    | none => shortestFrom x point rest

/-- Drops final zeros, at most `fuel` of them. -/
def dropZeros (digits : Nat) (place : Int) : Nat → Nat × Int
  | 0 => (digits, place)
  | fuel + 1 =>
    if digits % 10 = 0 then dropZeros (digits / 10) (place + 1) fuel else (digits, place)

/-- The digits and the decimal place of the last one. -/
def shortest (x : Binary64) : Nat × Int :=
  let (n, d) := shifted x.mantissa 1 x.exponent
  let (digits, place) := x.shortestFrom (pointPlace n d) ((List.range 17).map (· + 1))
  dropZeros digits place 17

/-- An exponent behind its letter, always with a sign. -/
def exponentText (exponent : Int) : String :=
  "e" ++ (if 0 ≤ exponent then "+" else "-") ++ toString exponent.natAbs

/-- The decimal in a readable form: positional with at least one digit on either side of the
    point from `10 ^ -5` up to `10 ^ 16`, and with an exponent outside of that. -/
def toText (x : Binary64) : String :=
  if x.mantissa = 0 then "0.0"
  else
    let (number, place) := x.shortest
    let digits := Nat.toDigits 10 number
    let point : Int := digits.length + place
    if 0 ≤ place && point ≤ 16 then
      String.ofList (digits ++ List.replicate place.toNat '0') ++ ".0"
    else if 0 < point && point ≤ 16 then
      String.ofList (digits.take point.toNat) ++ "." ++ String.ofList (digits.drop point.toNat)
    else if -5 < point && point ≤ 0 then
      "0." ++ String.ofList (List.replicate (-point).toNat '0' ++ digits)
    else if digits.length = 1 then
      String.ofList digits ++ exponentText (point - 1)
    else
      String.ofList (digits.take 1) ++ "." ++ String.ofList (digits.drop 1) ++
        exponentText (point - 1)

end Wiring.Binary64
