/-
  Wiring.Number.Binary64

  Magnitudes of the 64-bit binary floating-point format, computed exactly: a magnitude is
  `mantissa * 2 ^ exponent`, and every operation rounds the exact result to the nearest
  magnitude, a tie going to the even mantissa.
-/

namespace Wiring

/-- A magnitude of the format: the mantissa is below `2 ^ 53`, the exponent from -1074 to 971. -/
structure Binary64 where
  mantissa : Nat
  exponent : Int
deriving DecidableEq

namespace Binary64

/-- The nearest integer to `num / den`, a tie going to the even neighbour. -/
def roundQuotient (num den : Nat) : Nat :=
  let whole := num / den
  let twice := 2 * (num % den)
  if twice < den then whole
  else if den < twice then whole + 1
  else whole + whole % 2

/-- `num * 2 ^ e / den` as a quotient of natural numbers. -/
def shifted (num den : Nat) (e : Int) : Nat × Nat :=
  (num * Nat.pow 2 e.toNat, den * Nat.pow 2 (-e).toNat)

/-- The magnitude nearest to `num / den`, or `none` where it is beyond the largest. -/
def ofQuotient (num den : Nat) : Option Binary64 :=
  if num = 0 then some ⟨0, -1074⟩
  else
    let guess : Int := (num.log2 : Int) - den.log2 - 52
    let (n, d) := shifted num den (-guess)
    let exponent := max (if n < Nat.pow 2 52 * d then guess - 1 else guess) (-1074)
    let (n, d) := shifted num den (-exponent)
    let rounded := roundQuotient n d
    let (mantissa, exponent) :=
      if rounded = Nat.pow 2 53 then (Nat.pow 2 52, exponent + 1) else (rounded, exponent)
    if 971 < exponent then none else some ⟨mantissa, exponent⟩

/-- A power of ten, rounded; `none` beyond `10 ^ 308`. -/
def powerOfTen (n : Nat) : Option Binary64 := ofQuotient (Nat.pow 10 n) 1

/-- The rounded product. -/
def mul (x y : Binary64) : Option Binary64 :=
  let (n, d) := shifted (x.mantissa * y.mantissa) 1 (x.exponent + y.exponent)
  ofQuotient n d

/-- The rounded quotient; `none` for a divisor of zero. -/
def div (x y : Binary64) : Option Binary64 :=
  if y.mantissa = 0 then none
  else
    let (n, d) := shifted x.mantissa y.mantissa (x.exponent - y.exponent)
    ofQuotient n d

/-- Divides by `step` as often as told, stopping at zero. -/
def divideBy (step : Binary64) : Nat → Binary64 → Option Binary64
  | 0, x => some x
  | count + 1, x =>
    if x.mantissa = 0 then some x
    else
      match x.div step with
      | none => none
      | some smaller => divideBy step count smaller

/-- `x * 10 ^ exponent` in one rounded step, or, below `10 ^ -308`, in steps of `10 ^ -308` and a
    last one. A power of ten is itself rounded, so the result can lie beside the nearest
    magnitude; `none` where it is beyond the largest. -/
def scale (x : Binary64) (exponent : Int) : Option Binary64 :=
  if x.mantissa = 0 then some x
  else if 308 < exponent then none
  else if 0 ≤ exponent then do x.mul (← powerOfTen exponent.toNat)
  else do
    let steps := (-exponent - 1).toNat / 308
    let smaller ← divideBy (← powerOfTen 308) steps x
    smaller.div (← powerOfTen ((-exponent).toNat - 308 * steps))

end Binary64
end Wiring
