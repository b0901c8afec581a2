/-
# JSON values and their text

Numbers are integers or floats, and the two are never the same value. An object keeps its members
in the order they are given in; one that is made from members in any order has them sorted by key,
so that equal objects have equal texts. A text is compact, or laid out over lines.

Key definitions: `Json`, `Json.ofMembers`, `Json.text`, `Json.layout`.
-/
import LongPoll.Decimal.Shortest

namespace LongPoll

inductive Json
  | null
  | bool (b : Bool)
  | int (n : Int)
  | float (x : Binary64)
  | str (s : String)
  | arr (items : List Json)
  | obj (members : List (String × Json))

namespace Json

instance : Inhabited Json := ⟨null⟩

mutual

def decEq : (a b : Json) → Decidable (a = b)
  | null, null => isTrue rfl
  | bool a, bool b => if h : a = b then isTrue (h ▸ rfl) else isFalse (by simpa using h)
  | int a, int b => if h : a = b then isTrue (h ▸ rfl) else isFalse (by simpa using h)
  | float a, float b => if h : a = b then isTrue (h ▸ rfl) else isFalse (by simpa using h)
  | str a, str b => if h : a = b then isTrue (h ▸ rfl) else isFalse (by simpa using h)
  | arr a, arr b =>
    match decEqItems a b with
    | isTrue h => isTrue (h ▸ rfl)
    | isFalse h => isFalse (by simpa using h)
  | obj a, obj b =>
    match decEqMembers a b with
    | isTrue h => isTrue (h ▸ rfl)
    | isFalse h => isFalse (by simpa using h)
  | null, bool _ | null, int _ | null, float _ | null, str _ | null, arr _ | null, obj _
  | bool _, null | bool _, int _ | bool _, float _ | bool _, str _ | bool _, arr _ | bool _, obj _
  | int _, null | int _, bool _ | int _, float _ | int _, str _ | int _, arr _ | int _, obj _
  | float _, null | float _, bool _ | float _, int _ | float _, str _ | float _, arr _
  | float _, obj _
  | str _, null | str _, bool _ | str _, int _ | str _, float _ | str _, arr _ | str _, obj _
  | arr _, null | arr _, bool _ | arr _, int _ | arr _, float _ | arr _, str _ | arr _, obj _
  | obj _, null | obj _, bool _ | obj _, int _ | obj _, float _ | obj _, str _ | obj _, arr _ =>
    isFalse (by simp)

def decEqItems : (a b : List Json) → Decidable (a = b)
  | [], [] => isTrue rfl
  | a :: as, b :: bs =>
    match decEq a b, decEqItems as bs with
    | isTrue h, isTrue hs => isTrue (h ▸ hs ▸ rfl)
    | isFalse h, _ => isFalse (by simp [h])
    | _, isFalse h => isFalse (by simp [h])
  | [], _ :: _ | _ :: _, [] => isFalse (by simp)

def decEqMembers : (a b : List (String × Json)) → Decidable (a = b)
  | [], [] => isTrue rfl
  | (k, a) :: as, (l, b) :: bs =>
    if hk : k = l then
      match decEq a b, decEqMembers as bs with
      | isTrue h, isTrue hs => isTrue (hk ▸ h ▸ hs ▸ rfl)
      | isFalse h, _ => isFalse (by simp [h])
      | _, isFalse h => isFalse (by simp [h])
    else isFalse (by simp [hk])
  | [], _ :: _ | _ :: _, [] => isFalse (by simp)

end

instance : DecidableEq Json := decEq

/-- Puts a member at its place among sorted ones; it replaces a member of the same key. -/
def insert (key : String) (value : Json) : List (String × Json) → List (String × Json)
  | [] => [(key, value)]
  | (k, v) :: rest =>
    if key < k then (key, value) :: (k, v) :: rest
    else if key = k then (key, value) :: rest
    else (k, v) :: insert key value rest

/-- The object with these members, sorted by key; of two with the same key the later one counts. -/
def ofMembers (members : List (String × Json)) : Json :=
  obj (members.foldl (fun sorted m => insert m.1 m.2 sorted) [])

/-! ### Text -/

/-- A character inside a string: quotes, backslashes and control characters are escaped. -/
def escape (c : Char) : List Char :=
  match c with
  | '"' => ['\\', '"']
  | '\\' => ['\\', '\\']
  | '\x08' => ['\\', 'b']
  | '\x0c' => ['\\', 'f']
  | '\n' => ['\\', 'n']
  | '\r' => ['\\', 'r']
  | '\t' => ['\\', 't']
  | c =>
    if c.toNat < 0x20 then
      ['\\', 'u', '0', '0', Nat.digitChar (c.toNat / 16), Nat.digitChar (c.toNat % 16)]
    else [c]

/-- A string between quotes. -/
def quoted (s : String) : List Char := '"' :: (s.toList.flatMap escape ++ ['"'])

/-- Integers have their digits and a sign if they are negative. -/
def digits : Int → List Char
  | .ofNat n => Nat.toDigits 10 n
  | .negSucc n => '-' :: Nat.toDigits 10 (n + 1)

/-- Floats are written without an exponent from 0.00001 to below 10^16, and whole ones keep a zero
after the point; of two equally near decimals the even one is written. -/
def floatStyle : FloatStyle :=
  { positional := fun power => -5 ≤ power && power ≤ 15, wholePoint := true, exponentSign := true,
    tie := .toEven }

mutual

/-- The text of a value, with no blanks. -/
def chars : Json → List Char
  | null => ['n', 'u', 'l', 'l']
  | bool true => ['t', 'r', 'u', 'e']
  | bool false => ['f', 'a', 'l', 's', 'e']
  | int n => digits n
  | float x => (floatStyle.text x).toList
  | str s => quoted s
  | arr [] => ['[', ']']
  | arr (v :: rest) => '[' :: chars v ++ itemsAfter rest
  | obj [] => ['\x7b', '\x7d']
  | obj ((k, v) :: rest) => '\x7b' :: quoted k ++ ':' :: chars v ++ membersAfter rest

/-- The items after the first, up to the end of the array. -/
def itemsAfter : List Json → List Char
  | [] => [']']
  | v :: rest => ',' :: chars v ++ itemsAfter rest

/-- The members after the first, up to the end of the object. -/
def membersAfter : List (String × Json) → List Char
  | [] => ['\x7d']
  | (k, v) :: rest => ',' :: quoted k ++ ':' :: chars v ++ membersAfter rest

end

def text (v : Json) : String := String.ofList (chars v)

/-- Members in the order given, each on a line of its own. -/
def layout (members : List (String × Json)) : String :=
  let line (m : String × Json) : List Char := "\n  ".toList ++ quoted m.1 ++ ':' :: ' ' :: chars m.2
  let lines := (members.map line).intersperse [',']
  String.ofList ('\x7b' :: lines.flatten ++ ['\n', '\x7d'])

end Json
end LongPoll
