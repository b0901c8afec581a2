/-
# Numbers as people write them

A count is digits, with a plus sign in front at will. A rate is a decimal with a sign, a point and
an exponent at will, or the name of one of the values that are no number.

Key definitions: `Literal.count?`, `Literal.rate?`.
-/
import LongPoll.Decimal.Binary64
import LongPoll.Text.Decimal

namespace LongPoll.Literal

/-- A whole number of 64 bits. -/
def count? (s : String) : Option Nat :=
  let digits := match s.toList with
    | '+' :: cs => cs
    | cs => cs
  (Decimal.value? digits).filter (· < Nat.pow 2 64)

/-- A sign at will, and whether it is a minus. -/
def sign : List Char → Bool × List Char
  | '-' :: cs => (true, cs)
  | '+' :: cs => (false, cs)
  | cs => (false, cs)

/-- The exponent that a text is, from its letter on; no text is the exponent 0. -/
def exponent? : List Char → Option Int
  | [] => some 0
  | c :: cs =>
    if c = 'e' ∨ c = 'E' then
      let (negative, cs) := sign cs
      (Decimal.value? cs).map fun n => if negative then -(n : Int) else n
    else none

/-- A decimal without its sign: there is a digit before or after the point. -/
def unsigned? (negative : Bool) (cs : List Char) : Option Binary64 :=
  let whole := cs.takeWhile Char.isDigit
  let (fraction, rest) := match cs.dropWhile Char.isDigit with
    | '.' :: rest => (rest.takeWhile Char.isDigit, rest.dropWhile Char.isDigit)
    | rest => ([], rest)
  match Decimal.value? (whole ++ fraction), exponent? rest with
  | some coefficient, some exponent =>
    some (.ofDecimal negative coefficient (exponent - fraction.length))
  | _, _ => none

/-- A 64-bit float, the case of letters not counting. -/
def rate? (s : String) : Option Binary64 :=
  let (negative, cs) := sign s.toList
  let name := String.ofList (cs.map Char.toLower)
  if name = "nan" then some .nan
  else if name = "inf" ∨ name = "infinity" then some (.infinite negative)
  else unsigned? negative cs

end LongPoll.Literal
