/-
# Positions in the stream of responses

Responses are numbered 1, 2, 3, …; a device names the last one it has seen by its position, and
position 0 means that it has seen none. Positions are 64-bit words: `next?` stops at the largest
one and `next` stays there.

Key definitions: `Position`, `Position.next?`, `Position.next`, `Position.ofChars?`,
`Position.parse?`, `Position.text`.
Key theorems: `Position.ofChars?_eq_some_iff`, `Position.parse?_text`.
-/
import LongPoll.Text.Decimal
import LongPoll.Text.Quoted

namespace LongPoll

/-- One more than the largest 64-bit word. -/
def wordLimit : Nat := Nat.pow 2 64

/-- A place in the stream of responses. -/
structure Position where
  val : Nat
  lt_limit : val < wordLimit
deriving DecidableEq

namespace Position

def initial : Position := ⟨0, by decide⟩

def last : Position := ⟨wordLimit - 1, by decide⟩

instance : Inhabited Position := ⟨initial⟩

instance : LT Position := ⟨fun p q => p.val < q.val⟩

instance : LE Position := ⟨fun p q => p.val ≤ q.val⟩

instance (p q : Position) : Decidable (p < q) := inferInstanceAs (Decidable (p.val < q.val))

instance (p q : Position) : Decidable (p ≤ q) := inferInstanceAs (Decidable (p.val ≤ q.val))

instance : Max Position := maxOfLe

instance : Min Position := minOfLe

theorem val_inj {p q : Position} : p.val = q.val ↔ p = q := by
  cases p; cases q; simp

theorem lt_def {p q : Position} : p < q ↔ p.val < q.val := Iff.rfl

theorem le_def {p q : Position} : p ≤ q ↔ p.val ≤ q.val := Iff.rfl

theorem max_of_le {p q : Position} (h : p ≤ q) : max p q = q := if_pos h

theorem le_max_left (p q : Position) : p ≤ max p q := by
  by_cases h : p ≤ q
  · rwa [max_of_le h]
  · have hmax : max p q = p := if_neg h
    rw [hmax]
    exact Nat.le_refl _

theorem max_lt_iff {p q r : Position} : max p q < r ↔ p < r ∧ q < r := by
  by_cases h : p ≤ q
  · rw [max_of_le h]
    exact ⟨fun hr => ⟨Nat.lt_of_le_of_lt h hr, hr⟩, And.right⟩
  · have hmax : max p q = p := if_neg h
    rw [hmax]
    exact ⟨fun hr => ⟨hr, Nat.lt_trans (Nat.lt_of_not_le h) hr⟩, And.left⟩

/-- The position of a number, if it fits. -/
def ofNat? (n : Nat) : Option Position :=
  if h : n < wordLimit then some ⟨n, h⟩ else none

def isInitial (p : Position) : Bool := p.val == 0

/-- The position after `p`; the largest one has none. -/
def next? (p : Position) : Option Position := ofNat? (p.val + 1)

/-- The position after `p`, or `p` itself if it is the largest. -/
def next (p : Position) : Position := p.next?.getD p

def text (p : Position) : String := Decimal.text p.val

instance : ToString Position := ⟨text⟩

/-- The position that a run of ASCII digits names, if there is one that large. -/
def ofChars? (cs : List Char) : Option Position := (Decimal.value? cs).bind ofNat?

def parse? (s : String) : Option Position := ofChars? s.toList

def parseMessage (s : String) : String :=
  "invalid position " ++ Text.quote s ++ ": expected a decimal integer"

theorem ofNat?_eq_some_iff {n : Nat} {p : Position} : ofNat? n = some p ↔ p.val = n := by
  unfold ofNat?
  split
  · rw [Option.some_inj, ← val_inj]
    exact eq_comm
  · next h =>
    have := p.lt_limit
    simp only [reduceCtorEq, false_iff]
    omega

theorem next?_eq_some_iff {p q : Position} : p.next? = some q ↔ q.val = p.val + 1 :=
  ofNat?_eq_some_iff

theorem next?_eq_none_iff {p : Position} : p.next? = none ↔ p.val = wordLimit - 1 := by
  have hp := p.lt_limit
  have : 0 < wordLimit := by decide
  simp only [next?, ofNat?, dite_eq_right_iff, reduceCtorEq, imp_false]
  omega

/-- A text names a position exactly when it is a non-empty run of digits whose number is below
the limit, and then it names that number. -/
theorem ofChars?_eq_some_iff {cs : List Char} {p : Position} :
    ofChars? cs = some p ↔
      cs ≠ [] ∧ cs.all Char.isDigit = true ∧ p.val = Nat.ofDigitChars 10 cs 0 := by
  unfold ofChars? Decimal.value?
  split
  · next h => simp [ofNat?_eq_some_iff, h]
  · next h =>
    simp only [Option.bind_none, reduceCtorEq, false_iff]
    exact fun hc => h ⟨hc.1, hc.2.1⟩

theorem parse?_text (p : Position) : parse? p.text = some p := by
  rw [parse?, ofChars?, text, Decimal.value?_text, Option.bind_some, ofNat?_eq_some_iff]

end Position
end LongPoll
