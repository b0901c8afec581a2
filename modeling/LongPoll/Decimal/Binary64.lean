/-
# Binary floating-point numbers as exact numbers

A 64-bit float is a sign, a natural number and a power of two, or one of the values that are no
number. A ratio is rounded to the nearest of them, a tie going to the even significand; working on
whole numbers keeps every comparison exact. A decimal is rounded once; a product or a quotient is
that of the exact numbers, rounded once.

Key definitions: `Binary64`, `Binary64.ofRatio`, `Binary64.ofDecimal`, `Binary64.mul`,
`Binary64.div`, `Binary64.scaled`, `Binary64.isUnit`, `Binary64.scaledFloor`.
-/
namespace LongPoll

inductive Binary64
  | nan
  | infinite (negative : Bool)
  /-- The number `significand * 2 ^ exponent`: the significand is below `2 ^ 53`, and if it is
  below `2 ^ 52` then the exponent is the least one, -1074. -/
  | finite (negative : Bool) (significand : Nat) (exponent : Int)
deriving DecidableEq

namespace Binary64

def zero (negative : Bool) : Binary64 := finite negative 0 (-1074)

/-- The whole number nearest to `num / den`, the even one of two. -/
def roundHalfEven (num den : Nat) : Nat :=
  let q := num / den
  let r := num % den
  if 2 * r < den then q else if den < 2 * r then q + 1 else if q % 2 = 0 then q else q + 1

/-- The power of two with `2 ^ k ≤ num / den < 2 ^ (k + 1)`, both numbers positive. -/
def binaryPower (num den : Nat) : Int :=
  let k : Int := (Nat.log2 num : Int) - Nat.log2 den
  if num * Nat.pow 2 (-k).toNat < den * Nat.pow 2 k.toNat then k - 1 else k

/-- The float nearest to the positive number `num / den`. -/
def ofRatio (negative : Bool) (num den : Nat) : Binary64 :=
  let exponent := max (binaryPower num den - 52) (-1074)
  let rounded := roundHalfEven (num * Nat.pow 2 (-exponent).toNat) (den * Nat.pow 2 exponent.toNat)
  let (significand, exponent) :=
    if rounded = Nat.pow 2 53 then (Nat.pow 2 52, exponent + 1) else (rounded, exponent)
  if 971 < exponent then infinite negative else finite negative significand exponent

/-- The float nearest to `coefficient * 10 ^ power`. Decimals of more than 400 digits before or
zeros after the point are far outside of the floats. -/
def ofDecimal (negative : Bool) (coefficient : Nat) (power : Int) : Binary64 :=
  let point := power + (Nat.toDigits 10 coefficient).length
  if coefficient = 0 || point < -400 then zero negative
  else if 400 < point then infinite negative
  else ofRatio negative (coefficient * Nat.pow 10 power.toNat) (Nat.pow 10 (-power).toNat)

/-! ### Arithmetic -/

/-- The product; zero times infinity is no number. -/
def mul : Binary64 → Binary64 → Binary64
  | nan, _ | _, nan => nan
  | infinite a, infinite b => infinite (a != b)
  | infinite a, finite b m _ | finite b m _, infinite a =>
    if m = 0 then nan else infinite (a != b)
  | finite a m e, finite b n f =>
    if m = 0 ∨ n = 0 then zero (a != b)
    else ofRatio (a != b) (m * n * Nat.pow 2 (e + f).toNat) (Nat.pow 2 (-(e + f)).toNat)

/-- The quotient; zero by zero and infinity by infinity are no numbers. -/
def div : Binary64 → Binary64 → Binary64
  | nan, _ | _, nan => nan
  | infinite _, infinite _ => nan
  | infinite a, finite b _ _ => infinite (a != b)
  | finite a _ _, infinite b => zero (a != b)
  | finite a m e, finite b n f =>
    if n = 0 then (if m = 0 then nan else infinite (a != b))
    else if m = 0 then zero (a != b)
    else ofRatio (a != b) (m * Nat.pow 2 (e - f).toNat) (n * Nat.pow 2 (f - e).toNat)

/-- The float nearest to a power of ten, which is infinite above `10 ^ 308`. -/
def tenTo (k : Nat) : Binary64 := ofDecimal false 1 k

/-- A coefficient times a power of ten, computed in floats: the coefficient is rounded, then the
power of ten, then their product or quotient. Below `10 ^ (-308)` there are two quotients, since
the power of ten is no float. The result may be a neighbour of the nearest float, which is
`ofDecimal`. -/
def scaled (negative : Bool) (coefficient : Nat) (power : Int) : Binary64 :=
  let x := ofDecimal negative coefficient 0
  if coefficient = 0 then x
  else if 0 ≤ power then x.mul (tenTo power.toNat)
  else if -308 ≤ power then x.div (tenTo (-power).toNat)
  else (x.div (tenTo 308)).div (tenTo (-308 - power).toNat)

/-! ### Fractions of one -/

/-- The number lies in [0, 1]; negative zero does. -/
def isUnit : Binary64 → Bool
  | nan | infinite _ => false
  | finite negative significand exponent =>
    significand == 0
      || !negative && significand * Nat.pow 2 exponent.toNat ≤ Nat.pow 2 (-exponent).toNat

/-- The whole part of `significand * 2 ^ exponent * 2 ^ k`. -/
def scaledFloor (significand : Nat) (exponent : Int) (k : Nat) : Nat :=
  significand * Nat.pow 2 (exponent + k).toNat / Nat.pow 2 (-(exponent + k)).toNat

end Binary64
end LongPoll
