/-
# Values from drafts

A draft is decoded by walking it in the order of its text, so the first fault counts, be it a
break of the text or a value of another kind than the one that has to come. A value that nobody
asks for is passed over: it only has to be JSON.

Key definitions: `DecodeError`, `Mismatch`, `Draft.Quoted.read`, `Draft.Numeral.float`,
`Draft.Numeral.read`, `Draft.skip`, `Draft.value`, `Draft.mismatch`, `Draft.decode`.
-/
import LongPoll.Json
import LongPoll.Json.Draft
import LongPoll.Position

namespace LongPoll

/-- The kind of a value, as far as a message tells it. -/
inductive Found
  | null
  | bool (b : Bool)
  | int (n : Int)
  | float (x : Binary64)
  | string (s : String)
  | sequence
  | map
deriving DecidableEq

def Found.text : Found → String
  | null => "null"
  | bool b => "boolean `" ++ (if b then "true" else "false") ++ "`"
  | int n => "integer `" ++ String.ofList (Json.digits n) ++ "`"
  | float x => "floating point `" ++ Json.floatStyle.text x ++ "`"
  | string s => "string " ++ Text.quote s
  | sequence => "sequence"
  | map => "map"

/-- How a value can be another one than what has to come. -/
inductive Mismatch
  | wrongType (found : Found) (expected : String)
  /-- A number of the right kind that is out of range. -/
  | wrongValue (found : Found) (expected : String)
  | missing (field : String)
  | duplicate (field : String)
  /-- A list of values that ends too early. -/
  | wrongLength (count : Nat) (expected : String)
  | badPosition (text : String)
  | negativePosition (n : Int)
deriving DecidableEq

def Mismatch.message : Mismatch → String
  | wrongType found expected => "invalid type: " ++ found.text ++ ", expected " ++ expected
  | wrongValue found expected => "invalid value: " ++ found.text ++ ", expected " ++ expected
  | missing field => "missing field `" ++ field ++ "`"
  | duplicate field => "duplicate field `" ++ field ++ "`"
  | wrongLength count expected =>
    "invalid length " ++ Decimal.text count ++ ", expected " ++ expected
  | badPosition text => Position.parseMessage text
  | negativePosition n => "negative position " ++ String.ofList (Json.digits n)

/-- Why a text does not decode. -/
inductive DecodeError
  | text (b : Break)
  | data (m : Mismatch)
deriving DecidableEq

namespace Draft

/-! ### Strings and numbers -/

/-- Two halves make a character if the first is a high one and the second a low one. -/
def joinHalves? (high low : Nat) : Option Char :=
  if high < 0xdc00 && 0xdc00 ≤ low then
    some (Char.ofNat (0x10000 + (high - 0xd800) * 0x400 + (low - 0xdc00)))
  else none

/-- The characters of a string; a half has to have its other half beside it. -/
def join (stop : Option Break) : List Piece → Except Break (List Char)
  | [] =>
    match stop with
    | none => .ok []
    | some b => .error b
  | .char c :: rest => (join stop rest).map (c :: ·)
  | .half high :: .half low :: rest =>
    match joinHalves? high low with
    | some c => (join stop rest).map (c :: ·)
    | none => .error .malformed
  | .half high :: rest =>
    if rest.isEmpty && high < 0xdc00 then .error (stop.getD .malformed) else .error .malformed

def Quoted.read (q : Quoted) : Except Break String := (join q.stop q.pieces).map String.ofList

/-- The string is passed over, halves and all. -/
def Quoted.skip (q : Quoted) : Except Break Unit :=
  match q.stop with
  | none => .ok ()
  | some b => .error b

inductive Number
  | int (n : Int)
  | float (x : Binary64)
deriving DecidableEq

namespace Numeral

/-- Digits only, maybe after a sign. -/
def isWhole (n : Numeral) : Bool := n.fraction.isNone && n.exponent.isNone

def wholeValue (n : Numeral) : Nat := Nat.ofDigitChars 10 n.whole 0

def exponentValue (n : Numeral) : Int :=
  match n.exponent with
  | none => 0
  | some (negative, ds) =>
    if negative then -(Nat.ofDigitChars 10 ds 0 : Int) else Nat.ofDigitChars 10 ds 0

/-- Puts digits behind those of a number as long as it stays below `2 ^ 64`; the digits from the
first one that does not fit are left over. -/
def fill (number : Nat) : List Char → Nat × List Char
  | [] => (number, [])
  | c :: cs =>
    let longer := Nat.ofDigitChars 10 [c] number
    if longer < wordLimit then fill longer cs else (number, c :: cs)

/-- The float: as many digits as fit into 64 bits, times a power of ten. Digits before the point
that do not fit only raise the power; digits after it go behind the kept ones, again as long as
they fit, and the others do not count. -/
def float (n : Numeral) : Binary64 :=
  let fraction := n.fraction.getD []
  let (kept, raising) := fill 0 n.whole
  let (kept, ignored) := fill kept fraction
  .scaled n.negative kept
    (n.exponentValue + raising.length - (fraction.length - ignored.length : Nat))

/-- The number: an integer if it is written as one and fits into 64 bits, and else a float. There
is no negative zero among the integers, and no infinity among the floats. -/
def read (n : Numeral) : Except Break Number :=
  if n.isWhole && !n.negative && n.wholeValue < wordLimit then .ok (.int n.wholeValue)
  else if n.isWhole && n.negative && 0 < n.wholeValue && n.wholeValue ≤ wordLimit / 2 then
    .ok (.int (-n.wholeValue))
  else
    match n.float with
    | .infinite _ => .error .malformed
    | x => .ok (.float x)

end Numeral

/-! ### Whole values -/

mutual

def skip : Draft → Except Break Unit
  | null | bool _ | number _ => .ok ()
  | string q => q.skip
  | array items stop => skipItems stop items
  | object members stop => skipMembers stop members
  | brokenNumber _ => .error .malformed
  | broken b => .error b

def skipItems (stop : Option Break) : List Draft → Except Break Unit
  | [] => stop.elim (.ok ()) .error
  | d :: rest =>
    match skip d with
    | .ok _ => skipItems stop rest
    | .error b => .error b

def skipMembers (stop : Option Break) : List (Quoted × Draft) → Except Break Unit
  | [] => stop.elim (.ok ()) .error
  | (key, d) :: rest =>
    match key.skip with
    | .error b => .error b
    | .ok _ =>
      match skip d with
      | .ok _ => skipMembers stop rest
      | .error b => .error b

end

/-- How deep arrays and objects may be nested, the outermost value counting. -/
def depthLimit : Nat := 128

mutual

/-- The value of a draft, where arrays and objects may still be nested to a depth below
`depth`. -/
def value (depth : Nat) : Draft → Except Break Json
  | null => .ok .null
  | bool b => .ok (.bool b)
  | number n =>
    n.read.map fun
      | .int i => .int i
      | .float x => .float x
  | string q => q.read.map .str
  | array items stop =>
    if depth ≤ 1 then .error .malformed else (values (depth - 1) stop items).map .arr
  | object members stop =>
    if depth ≤ 1 then .error .malformed
    else (memberValues (depth - 1) stop members).map .ofMembers
  | brokenNumber b | broken b => .error b

def values (depth : Nat) (stop : Option Break) : List Draft → Except Break (List Json)
  | [] => stop.elim (.ok []) .error
  | d :: rest => do
    let v ← value depth d
    let vs ← values depth stop rest
    return v :: vs

def memberValues (depth : Nat) (stop : Option Break) :
    List (Quoted × Draft) → Except Break (List (String × Json))
  | [] => stop.elim (.ok []) .error
  | (key, d) :: rest => do
    let k ← key.read
    let v ← value depth d
    let vs ← memberValues depth stop rest
    return (k, v) :: vs

end

/-- What kind of value stands where another one has to come. Strings and numbers are read to the
end to tell, arrays and objects are not. -/
def found : Draft → Except Break Found
  | null => .ok .null
  | bool b => .ok (.bool b)
  | number n =>
    n.read.map fun
      | .int i => .int i
      | .float x => .float x
  | string q => q.read.map .string
  | array _ _ => .ok .sequence
  | object _ _ => .ok .map
  | brokenNumber b | broken b => .error b

/-- The error for a draft that is no `expected`. -/
def mismatch {α : Type} (expected : String) (d : Draft) : Except DecodeError α :=
  match d.found with
  | .ok found => .error (.data (.wrongType found expected))
  | .error b => .error (.text b)

/-- A break of the text as the reason why it does not decode. -/
def ofBreak {α : Type} : Except Break α → Except DecodeError α
  | .ok a => .ok a
  | .error b => .error (.text b)

def asString : Draft → Except DecodeError String
  | string q => ofBreak q.read
  | d => mismatch "a string" d

/-- Decodes a text: one value, and nothing but blanks after it. -/
def decode {α : Type} (read : Draft → Except DecodeError α) (s : String) :
    Except DecodeError α :=
  let (d, rest) := ofText s.toList
  match read d with
  | .error e => .error e
  | .ok a =>
    if rest.any fun cs => (skipBlank cs).isEmpty then .ok a else .error (.text .malformed)

end Draft

def Json.parse (s : String) : Except DecodeError Json :=
  Draft.decode (fun d => Draft.ofBreak (d.value Draft.depthLimit)) s

end LongPoll
