/-
# Decimal text of natural numbers

A number is written with its decimal digits and no leading zero; a list of characters is read as a
number when it is non-empty and holds ASCII digits only, however many zeros it starts with.

Key definitions: `Decimal.text`, `Decimal.value?`.
Key theorems: `Decimal.value?_toDigits`, `Decimal.value?_text`.
-/
namespace LongPoll.Decimal

def text (n : Nat) : String := String.ofList (Nat.toDigits 10 n)

/-- The number a non-empty run of ASCII digits stands for. -/
def value? (cs : List Char) : Option Nat :=
  if cs ≠ [] ∧ cs.all Char.isDigit then some (Nat.ofDigitChars 10 cs 0) else none

theorem value?_toDigits (n : Nat) : value? (Nat.toDigits 10 n) = some n := by
  have hne : Nat.toDigits 10 n ≠ [] := Nat.toDigits_ne_nil
  have hall : (Nat.toDigits 10 n).all Char.isDigit = true :=
    List.all_eq_true.mpr fun c hc => Nat.isDigit_of_mem_toDigits (by omega) (by omega) hc
  simp [value?, hne, hall, Nat.ofDigitChars_ten_toDigits]

theorem value?_text (n : Nat) : value? (text n).toList = some n := by
  rw [text, String.toList_ofList, value?_toDigits]

end LongPoll.Decimal
