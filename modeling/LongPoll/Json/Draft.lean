/-
# JSON text, as far as it can be read

A draft is what a text holds up to the point where it breaks off or stops being JSON. It keeps
strings as they were written, in pieces that may be half a character, and numbers as digits, so
that nothing is refused here which a reader of the draft might pass over. A text without a break
becomes a draft without one.

Key definitions: `Break`, `Draft`, `Draft.ofText`, `Draft.Piece`, `Draft.Numeral`.
-/
namespace LongPoll

/-- How a text stops being JSON. -/
inductive Break
  | ended
  /-- Something else is there than what has to come. -/
  | malformed
deriving DecidableEq

namespace Draft

inductive Piece
  | char (c : Char)
  /-- Half of a character beyond the first plane, written as an escape. -/
  | half (unit : Nat)
deriving DecidableEq

/-- A string as it was written. -/
structure Quoted where
  pieces : List Piece
  /-- Set if the text breaks inside the string. -/
  stop : Option Break
deriving DecidableEq

/-- A number as it was written. -/
structure Numeral where
  negative : Bool
  whole : List Char
  fraction : Option (List Char)
  /-- Whether the exponent is negative, and its digits. -/
  exponent : Option (Bool × List Char)
deriving DecidableEq

end Draft

open Draft in
/-- A JSON text, up to its first break. -/
inductive Draft
  | null
  | bool (b : Bool)
  | number (n : Numeral)
  | string (q : Quoted)
  /-- The items, the last of which may break; or else a break after the last of them. -/
  | array (items : List Draft) (stop : Option Break)
  /-- The members, the last of which may break; or else a break after the last of them. -/
  | object (members : List (Quoted × Draft)) (stop : Option Break)
  | brokenNumber (b : Break)
  | broken (b : Break)

namespace Draft

instance : Inhabited Draft := ⟨null⟩

/-- What may stand between the parts of a text. -/
def isBlank (c : Char) : Bool := c == ' ' || c == '\n' || c == '\t' || c == '\r'

def skipBlank (cs : List Char) : List Char := cs.dropWhile isBlank

/-- A read part of a text, and the characters after it; none if the text breaks inside the part. -/
abbrev Reading (α : Type) : Type := α × Option (List Char)

/-! ### Words and strings -/

/-- Reads the letters that are left of a word. -/
def readWord (value : Draft) : List Char → List Char → Reading Draft
  | [], cs => (value, some cs)
  | _ :: _, [] => (broken .ended, none)
  | w :: ws, c :: cs => if w = c then readWord value ws cs else (broken .malformed, none)

def hexValue? (c : Char) : Option Nat :=
  if c.isDigit then some (c.toNat - '0'.toNat)
  else if 'a' ≤ c ∧ c ≤ 'f' then some (c.toNat - 'a'.toNat + 10)
  else if 'A' ≤ c ∧ c ≤ 'F' then some (c.toNat - 'A'.toNat + 10)
  else none

/-- The number that four hexadecimal digits stand for. -/
def hexUnit? (a b c d : Char) : Option Nat := do
  let a ← hexValue? a
  let b ← hexValue? b
  let c ← hexValue? c
  let d ← hexValue? d
  return ((a * 16 + b) * 16 + c) * 16 + d

/-- A unit that is only half of a character. -/
def isHalf (unit : Nat) : Bool := 0xd800 ≤ unit && unit < 0xe000

def pieceOfUnit (unit : Nat) : Piece :=
  if isHalf unit then .half unit else .char (Char.ofNat unit)

/-- Fewer than four bytes are left. -/
def isShort (cs : List Char) : Bool := (String.ofList cs).utf8ByteSize < 4

/-- Reads a piece after its backslash. -/
def readEscape : List Char → Except Break (Piece × List Char)
  | [] => .error .ended
  | 'u' :: cs =>
    match cs with
    | a :: b :: c :: d :: rest =>
      match hexUnit? a b c d with
      | some unit => .ok (pieceOfUnit unit, rest)
      | none => .error .malformed
    | short => .error (if isShort short then .ended else .malformed)
  | c :: cs =>
    match c with
    | '"' => .ok (.char '"', cs)
    | '\\' => .ok (.char '\\', cs)
    | '/' => .ok (.char '/', cs)
    | 'b' => .ok (.char '\x08', cs)
    | 'f' => .ok (.char '\x0c', cs)
    | 'n' => .ok (.char '\n', cs)
    | 'r' => .ok (.char '\r', cs)
    | 't' => .ok (.char '\t', cs)
    | _ => .error .malformed

/-- Reads a string after its first quote. Each piece takes a character, so as much fuel as there
are characters is enough. -/
def readPieces : Nat → List Char → Reading Quoted
  | _, [] => (⟨[], some .ended⟩, none)
  | 0, _ :: _ => (⟨[], some .malformed⟩, none)
  | fuel + 1, c :: cs =>
    let after (p : Piece) (rest : List Char) : Reading Quoted :=
      let (q, rest) := readPieces fuel rest
      ({ q with pieces := p :: q.pieces }, rest)
    if c = '"' then (⟨[], none⟩, some cs)
    else if c = '\\' then
      match readEscape cs with
      | .ok (p, rest) => after p rest
      | .error b => (⟨[], some b⟩, none)
    else if c.toNat < 0x20 then (⟨[], some .malformed⟩, none)
    else after (.char c) cs

/-! ### Numbers -/

/-- Reads digits, of which there has to be one. -/
def readDigits (cs : List Char) : Except Break (List Char × List Char) :=
  match cs with
  | [] => .error .ended
  | c :: _ =>
    if c.isDigit then .ok (cs.takeWhile Char.isDigit, cs.dropWhile Char.isDigit)
    else .error .malformed

/-- Reads the digits before the point: a zero stands alone. -/
def readWhole (cs : List Char) : Except Break (List Char × List Char) :=
  match cs with
  | '0' :: c :: rest => if c.isDigit then .error .malformed else .ok (['0'], c :: rest)
  | _ => readDigits cs

/-- Reads a point and the digits after it, if there is one. -/
def readFraction : List Char → Except Break (Option (List Char) × List Char)
  | '.' :: cs => (readDigits cs).map fun (ds, rest) => (some ds, rest)
  | cs => .ok (none, cs)

def readExponent : List Char → Except Break (Option (Bool × List Char) × List Char)
  | c :: cs =>
    if c = 'e' ∨ c = 'E' then
      match cs with
      | '-' :: cs => (readDigits cs).map fun (ds, rest) => (some (true, ds), rest)
      | '+' :: cs => (readDigits cs).map fun (ds, rest) => (some (false, ds), rest)
      | cs => (readDigits cs).map fun (ds, rest) => (some (false, ds), rest)
    else .ok (none, c :: cs)
  | [] => .ok (none, [])

def readUnsigned (negative : Bool) (cs : List Char) : Except Break (Numeral × List Char) := do
  let (whole, cs) ← readWhole cs
  let (fraction, cs) ← readFraction cs
  let (exponent, cs) ← readExponent cs
  return ({ negative, whole, fraction, exponent }, cs)

def readNumber (cs : List Char) : Reading Draft :=
  let read := match cs with
    | '-' :: cs => readUnsigned true cs
    | cs => readUnsigned false cs
  match read with
  | .ok (n, rest) => (number n, some rest)
  | .error b => (brokenNumber b, none)

/-! ### Values -/

mutual

/-- Reads a value. Fuel runs out only if there is less of it than twice the characters. -/
def readValue : Nat → List Char → Reading Draft
  | 0, _ => (broken .malformed, none)
  | fuel + 1, cs =>
    match skipBlank cs with
    | [] => (broken .ended, none)
    | c :: cs =>
      if c = '"' then
        let (q, rest) := readPieces fuel cs
        (string q, rest)
      else if c = '[' then
        match skipBlank cs with
        | [] => (array [] (some .ended), none)
        | ']' :: rest => (array [] none, some rest)
        | cs =>
          let ((items, stop), rest) := readItems fuel cs
          (array items stop, rest)
      else if c = '\x7b' then
        match skipBlank cs with
        | [] => (object [] (some .ended), none)
        | '\x7d' :: rest => (object [] none, some rest)
        | cs =>
          let ((members, stop), rest) := readMembers fuel cs
          (object members stop, rest)
      else if c = 'n' then readWord null ['u', 'l', 'l'] cs
      else if c = 't' then readWord (bool true) ['r', 'u', 'e'] cs
      else if c = 'f' then readWord (bool false) ['a', 'l', 's', 'e'] cs
      else if c = '-' ∨ c.isDigit then readNumber (c :: cs)
      else (broken .malformed, none)

/-- Reads the items of an array, of which there has to be one, up to its end. -/
def readItems : Nat → List Char → Reading (List Draft × Option Break)
  | 0, _ => (([], some .malformed), none)
  | fuel + 1, cs =>
    let (item, rest) := readValue fuel cs
    match rest with
    | none => (([item], none), none)
    | some rest =>
      match skipBlank rest with
      | [] => (([item], some .ended), none)
      | c :: rest =>
        if c = ']' then (([item], none), some rest)
        else if c = ',' then
          let ((items, stop), rest) := readItems fuel rest
          ((item :: items, stop), rest)
        else (([item], some .malformed), none)

/-- Reads the members of an object, of which there has to be one, up to its end. -/
def readMembers : Nat → List Char → Reading (List (Quoted × Draft) × Option Break)
  | 0, _ => (([], some .malformed), none)
  | fuel + 1, cs =>
    match skipBlank cs with
    | [] => (([], some .ended), none)
    | c :: cs =>
      if c = '"' then
        let (key, rest) := readPieces fuel cs
        match rest.map skipBlank with
        | none => (([(key, null)], none), none)
        | some [] => (([(key, broken .ended)], none), none)
        | some (c :: rest) =>
          if c = ':' then
            let (value, rest) := readValue fuel rest
            match rest.map skipBlank with
            | none => (([(key, value)], none), none)
            | some [] => (([(key, value)], some .ended), none)
            | some (c :: rest) =>
              if c = '\x7d' then (([(key, value)], none), some rest)
              else if c = ',' then
                let ((members, stop), rest) := readMembers fuel rest
                (((key, value) :: members, stop), rest)
              else (([(key, value)], some .malformed), none)
          else (([(key, broken .malformed)], none), none)
      else (([], some .malformed), none)

end

/-- Reads the first value of a text. -/
def ofText (cs : List Char) : Reading Draft := readValue (2 * cs.length + 2) cs

end Draft
end LongPoll
