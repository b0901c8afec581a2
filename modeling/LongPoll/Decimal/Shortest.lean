/-
# The shortest decimal of a float

Of all decimals that read back as a given float, the shortest has the fewest digits, and of those
with so few it is the nearest; of two equally near ones a tie rule takes one. A number of digits
is tried after the other, and on the grid of each only the two neighbours of the float can be
nearest.

Key definitions: `Tie`, `Shortest`, `Shortest.ofFinite`, `FloatStyle`, `FloatStyle.text`.
-/
import LongPoll.Decimal.Binary64
import LongPoll.Text.Decimal

namespace LongPoll

/-- Which of two equally near neighbours is taken. -/
inductive Tie
  | up
  | toEven
deriving DecidableEq

/-- The decimal `0.d₁d₂d₃… * 10 ^ point`. -/
structure Shortest where
  digits : List Char
  /-- Where the decimal point stands, counted from the first digit. -/
  point : Int
deriving DecidableEq

namespace Shortest

/-- The power of ten of the first digit of `num / den`, both of them positive. -/
def leadingPower (num den : Nat) : Int :=
  if den ≤ num then (Nat.toDigits 10 (num / den)).length - 1
  else -(Nat.toDigits 10 ((den - 1) / num)).length

/-- The decimal `coefficient * 10 ^ power` without the zeros at its end. -/
def ofScaled (coefficient : Nat) (power : Int) : Shortest :=
  let all := Nat.toDigits 10 coefficient
  { digits := (all.reverse.dropWhile (· == '0')).reverse, point := power + all.length }

/-- The upper neighbour of `value / unit` is the better one. -/
def upperNearer (tie : Tie) (value unit : Nat) : Bool :=
  let doubled := 2 * (value % unit)
  unit < doubled || unit == doubled && (tie = .up || value / unit % 2 == 1)

/-- The better neighbour of `value / unit` among the whole numbers strictly between `low / unit`
and `high / unit`, the ends counting if `closed`. -/
def nearest? (tie : Tie) (value low high unit : Nat) (closed : Bool) : Option Nat :=
  let inside (c : Nat) : Bool :=
    if closed then low ≤ c * unit && c * unit ≤ high else low < c * unit && c * unit < high
  let below := value / unit
  if inside below && !(inside (below + 1) && upperNearer tie value unit) then some below
  else if inside (below + 1) then some (below + 1)
  else none

/-- The first grid with a hit, trying powers from `power` down `fuel` times; each smaller power
has one more digit. The numbers are over the denominator `den`. -/
def search (tie : Tie) (value low high den : Nat) (closed : Bool) (power : Int) : Nat → Shortest
  | 0 => ofScaled (value / den) 0
  | fuel + 1 =>
    let up := Nat.pow 10 (-power).toNat
    let grid := den * Nat.pow 10 power.toNat
    match nearest? tie (value * up) (low * up) (high * up) grid closed with
    | some c => ofScaled c power
    | none => search tie value low high den closed (power - 1) fuel

/-- The shortest decimal that reads back as the float `significand * 2 ^ exponent`, which is not
zero. What reads back lies halfway to the floats beside it, and a float whose significand is the
least of its exponent has its lower neighbour at half the distance. Seventeen digits always do. -/
def ofFinite (tie : Tie) (significand : Nat) (exponent : Int) : Shortest :=
  let up := Nat.pow 2 (exponent - 2).toNat
  let value := 4 * significand * up
  let below := if significand = Nat.pow 2 52 && -1074 < exponent then 1 else 2
  let low := (4 * significand - below) * up
  let high := (4 * significand + 2) * up
  let den := Nat.pow 2 (2 - exponent).toNat
  search tie value low high den (significand % 2 = 0) (leadingPower value den) 18

end Shortest

/-- How a float is written: which powers of ten of the first digit are written without an
exponent, whether a whole number keeps a zero after its point, whether a positive exponent has a
sign, and which of two equally near decimals of the same length is written. -/
structure FloatStyle where
  positional : Int → Bool
  wholePoint : Bool
  exponentSign : Bool
  tie : Tie

namespace FloatStyle

/-- Digits before and after a point that stands `point` digits from the first one. -/
def split (s : Shortest) : List Char × List Char :=
  if s.point ≤ 0 then (['0'], List.replicate (-s.point).toNat '0' ++ s.digits)
  else
    let n := s.point.toNat
    (s.digits.take n ++ List.replicate (n - s.digits.length) '0', s.digits.drop n)

def finite (style : FloatStyle) (s : Shortest) : List Char :=
  if style.positional (s.point - 1) then
    let (whole, fraction) := split s
    if fraction.isEmpty then whole ++ (if style.wholePoint then ['.', '0'] else [])
    else whole ++ '.' :: fraction
  else
    let (whole, fraction) := split { s with point := 1 }
    let power := s.point - 1
    let sign := if power < 0 then ['-'] else if style.exponentSign then ['+'] else []
    whole ++ (if fraction.isEmpty then [] else '.' :: fraction)
      ++ 'e' :: sign ++ Nat.toDigits 10 power.natAbs

def text (style : FloatStyle) : Binary64 → String
  | .nan => "NaN"
  | .infinite negative => if negative then "-inf" else "inf"
  | .finite negative significand exponent =>
    let body :=
      if significand = 0 then '0' :: (if style.wholePoint then ['.', '0'] else [])
      else style.finite (.ofFinite style.tie significand exponent)
    String.ofList ((if negative then ['-'] else []) ++ body)

end FloatStyle
end LongPoll
