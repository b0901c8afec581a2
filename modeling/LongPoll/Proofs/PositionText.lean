/-
# The texts of a position

A text names a position exactly if it is a non-empty run of ASCII digits whose number, each digit
counting by its place, is below the limit; however many zeros it starts with. The reader goes
through the digits from the left and the writer makes them from the right. They meet in the runs
without a zero in front of other digits (`Decimal.Padded`): of all texts that name a position, its
own text is the one that is not padded.

Key definitions: `Decimal.placeValue`, `Decimal.Padded`.
Key theorems: `Decimal.ofDigitChars_eq_placeValue`, `Decimal.toDigits_ofDigitChars`,
`Decimal.not_padded_toDigits`, `Position.parse?_eq_some_iff`, `position_text`.
-/
import Mathlib.Data.List.Induction
import Mathlib.Data.Nat.Digits.Defs
import LongPoll.Position

namespace LongPoll

namespace Decimal

/-- The number that a run of digits stands for, each by its place: the last one counts ones, the
one before it tens, and so on. -/
def placeValue (cs : List Char) : Nat :=
  Nat.ofDigits 10 (cs.reverse.map fun c => c.toNat - '0'.toNat)

/-- A zero stands in front of other digits. -/
def Padded (cs : List Char) : Prop := ∃ rest, rest ≠ [] ∧ cs = '0' :: rest

/-! ### Reading digits from the left -/

theorem ofDigitChars_concat (cs : List Char) (c : Char) :
    Nat.ofDigitChars 10 (cs ++ [c]) 0
      = 10 * Nat.ofDigitChars 10 cs 0 + (c.toNat - '0'.toNat) := by
  rw [Nat.ofDigitChars_append, Nat.ofDigitChars_cons]
  rfl

/-- Digit by digit from the left is the same as each by its place. -/
theorem ofDigitChars_eq_placeValue (cs : List Char) :
    Nat.ofDigitChars 10 cs 0 = placeValue cs := by
  induction cs using List.reverseRecOn with
  | nil => rfl
  | append_singleton cs c ih =>
    rw [ofDigitChars_concat, ih, placeValue, placeValue, List.reverse_concat, List.map_cons,
      Nat.ofDigits_cons, Nat.add_comm]

theorem ofDigitChars_zeros (k : Nat) (cs : List Char) :
    Nat.ofDigitChars 10 (List.replicate k '0' ++ cs) 0 = Nat.ofDigitChars 10 cs 0 := by
  induction k with
  | zero => rfl
  | succ k ih =>
    rw [List.replicate_succ, List.cons_append, Nat.ofDigitChars_cons]
    exact ih

theorem toDigits_of_isDigit {c : Char} (hc : c.isDigit = true) :
    c.toNat - '0'.toNat < 10 ∧ Nat.toDigits 10 (c.toNat - '0'.toNat) = [c] := by
  obtain ⟨hlow, hhigh⟩ := Char.isDigit_iff_toNat.mp hc
  have hzero : '0'.toNat = 48 := rfl
  have hnine : '9'.toNat = 57 := rfl
  have hlt : c.toNat - '0'.toNat < 10 := by omega
  have hchar : Nat.digitChar (c.toNat - '0'.toNat) = c := by
    rw [← Char.toNat_inj, Nat.toNat_digitChar_of_lt_ten hlt]
    omega
  exact ⟨hlt, by rw [Nat.toDigits_of_lt_base hlt, hchar]⟩

/-! ### Writing digits from the right -/

/-- Further digits are written behind those of the positive number that has been read. -/
theorem toDigits_append {n : Nat} (hn : 0 < n) {cs : List Char}
    (hdigits : ∀ c ∈ cs, c.isDigit = true) :
    Nat.toDigits 10 n ++ cs = Nat.toDigits 10 (Nat.ofDigitChars 10 cs n) := by
  induction cs generalizing n with
  | nil => exact List.append_nil _
  | cons c cs ih =>
    obtain ⟨hlt, hdigit⟩ := toDigits_of_isDigit (hdigits c List.mem_cons_self)
    calc Nat.toDigits 10 n ++ c :: cs
        = (Nat.toDigits 10 n ++ Nat.toDigits 10 (c.toNat - '0'.toNat)) ++ cs := by
          rw [hdigit, List.append_assoc, List.singleton_append]
      _ = Nat.toDigits 10 (10 * n + (c.toNat - '0'.toNat)) ++ cs := by
          rw [Nat.toDigits_append_toDigits (by decide) hn hlt]
      _ = Nat.toDigits 10 (Nat.ofDigitChars 10 (c :: cs) n) := by
          rw [Nat.ofDigitChars_cons]
          exact ih (by omega) fun d hd => hdigits d (List.mem_cons_of_mem _ hd)

/-- A run that is not padded is what is written for its number. -/
theorem toDigits_ofDigitChars {cs : List Char} (hne : cs ≠ [])
    (hdigits : ∀ c ∈ cs, c.isDigit = true) (hpad : ¬ Padded cs) :
    Nat.toDigits 10 (Nat.ofDigitChars 10 cs 0) = cs := by
  cases cs with
  | nil => exact absurd rfl hne
  | cons c rest =>
    obtain ⟨hlt, hdigit⟩ := toDigits_of_isDigit (hdigits c List.mem_cons_self)
    rw [Nat.ofDigitChars_cons, Nat.mul_zero, Nat.zero_add]
    rcases Nat.eq_zero_or_pos (c.toNat - '0'.toNat) with hzero | hpos
    · -- the first digit is a zero, so it is the only one
      have hc : c = '0' := by
        rw [hzero] at hdigit
        exact (List.cons.inj hdigit).1.symm
      have hrest : rest = [] := by
        by_contra hmore
        exact hpad ⟨rest, hmore, by rw [hc]⟩
      rw [hrest]
      exact hdigit
    · rw [← toDigits_append hpos fun d hd => hdigits d (List.mem_cons_of_mem _ hd), hdigit,
        List.singleton_append]

theorem head?_toDigits_ne_zero {n : Nat} (hn : 0 < n) : (Nat.toDigits 10 n).head? ≠ some '0' := by
  induction n using Nat.strongRecOn with
  | ind n ih =>
    by_cases hlt : n < 10
    · rw [Nat.toDigits_of_lt_base hlt]
      simp only [List.head?_cons, ne_eq, Option.some.injEq, Nat.digitChar_eq_zero]
      omega
    · have hbefore := ih (n / 10) (by omega) (by omega)
      rw [Nat.toDigits_of_base_le (by decide) (by omega), List.head?_append]
      cases hhead : (Nat.toDigits 10 (n / 10)).head? with
      | none => exact absurd (List.head?_eq_none_iff.mp hhead) Nat.toDigits_ne_nil
      | some c => rwa [hhead] at hbefore

theorem not_padded_toDigits (n : Nat) : ¬ Padded (Nat.toDigits 10 n) := by
  rintro ⟨rest, hne, heq⟩
  rcases Nat.eq_zero_or_pos n with rfl | hpos
  · exact hne (List.cons.inj heq).2.symm
  · exact head?_toDigits_ne_zero hpos (by rw [heq]; rfl)

end Decimal

namespace Position

open Decimal

theorem toList_text (p : Position) : p.text.toList = Nat.toDigits 10 p.val :=
  String.toList_ofList ..

/-- A text names a position exactly if it is a non-empty run of digits, and then it names the
number that they stand for. -/
theorem parse?_eq_some_iff {s : String} {p : Position} :
    parse? s = some p ↔
      s ≠ "" ∧ (∀ c ∈ s.toList, c.isDigit = true) ∧ placeValue s.toList = p.val := by
  rw [parse?, ofChars?_eq_some_iff, ← ofDigitChars_eq_placeValue, List.all_eq_true, eq_comm,
    Ne, Ne, String.toList_eq_nil_iff]

/-- A text that names a position is its own text exactly if it is not padded. -/
theorem text_eq_iff {s : String} {p : Position} (h : parse? s = some p) :
    p.text = s ↔ ¬ Padded s.toList := by
  obtain ⟨hne, hdigits, hvalue⟩ := parse?_eq_some_iff.mp h
  constructor
  · rintro rfl
    rw [toList_text]
    exact not_padded_toDigits p.val
  · intro hpad
    have hne' : s.toList ≠ [] := fun hnil => hne (String.toList_eq_nil_iff.mp hnil)
    rw [← String.toList_inj, toList_text, ← hvalue, ← ofDigitChars_eq_placeValue]
    exact toDigits_ofDigitChars hne' hdigits hpad

end Position

open Decimal Position in
/-- **The texts of a position.** A text can be read as a position exactly if it is a non-empty run
of ASCII digits that stands for a number below `2 ^ 64`, and it is read as that number; zeros in
front make no difference. Every position is read back from its own text. A text that can be read is
the text of what it is read as exactly if it has no zero in front of other digits, so every
position has exactly one such text. -/
theorem position_text :
    (∀ s, (∃ p, parse? s = some p) ↔
        s ≠ "" ∧ (∀ c ∈ s.toList, c.isDigit = true) ∧ placeValue s.toList < 2 ^ 64) ∧
      (∀ s p, parse? s = some p → p.val = placeValue s.toList) ∧
      (∀ s p k, parse? s = some p →
        parse? (String.ofList (List.replicate k '0' ++ s.toList)) = some p) ∧
      (∀ p : Position, parse? p.text = some p) ∧
      (∀ s p, parse? s = some p → (p.text = s ↔ ¬ Padded s.toList)) ∧
      ∀ p, ∃! s, parse? s = some p ∧ ¬ Padded s.toList := by
  have hlimit : wordLimit = 2 ^ 64 := by decide
  refine ⟨fun s => ⟨?_, ?_⟩, fun s p h => (parse?_eq_some_iff.mp h).2.2.symm, ?_, parse?_text,
    fun s p => text_eq_iff, fun p => ⟨p.text, ⟨parse?_text p, ?_⟩, ?_⟩⟩
  · rintro ⟨p, h⟩
    obtain ⟨hne, hdigits, hvalue⟩ := parse?_eq_some_iff.mp h
    exact ⟨hne, hdigits, by rw [hvalue, ← hlimit]; exact p.lt_limit⟩
  · rintro ⟨hne, hdigits, hlt⟩
    rw [← hlimit] at hlt
    exact ⟨⟨_, hlt⟩, parse?_eq_some_iff.mpr ⟨hne, hdigits, rfl⟩⟩
  · intro s p k h
    obtain ⟨hne, hdigits, hvalue⟩ := parse?_eq_some_iff.mp h
    rw [parse?_eq_some_iff, String.toList_ofList]
    refine ⟨?_, ?_, ?_⟩
    · rw [Ne, ← String.toList_eq_nil_iff, String.toList_ofList, List.append_eq_nil_iff]
      exact fun hnil => hne (String.toList_eq_nil_iff.mp hnil.2)
    · intro c hc
      rcases List.mem_append.mp hc with hzero | hc
      · rw [List.eq_of_mem_replicate hzero]
        rfl
      · exact hdigits c hc
    · rw [← ofDigitChars_eq_placeValue, ofDigitChars_zeros, ofDigitChars_eq_placeValue, hvalue]
  · exact (text_eq_iff (parse?_text p)).mp rfl
  · rintro s ⟨h, hpad⟩
    exact ((text_eq_iff h).mpr hpad).symm

/-- The largest position is read from its digits behind a hundred zeros, and the text with the
zeros is not its own. -/
theorem position_text_of_zeros :
    let s := "18446744073709551615"
    let padded := String.ofList (List.replicate 100 '0' ++ s.toList)
    Position.parse? s = some .last ∧ Position.parse? padded = some .last ∧
      Position.last.text ≠ padded := by
  intro s padded
  have hread : Position.parse? s = some .last := by decide +kernel
  have hpadded := position_text.2.2.1 s .last 100 hread
  refine ⟨hread, hpadded, fun htext => ?_⟩
  refine (position_text.2.2.2.2.1 padded .last hpadded).mp htext ?_
  exact ⟨List.replicate 99 '0' ++ s.toList, List.cons_ne_nil _ _, String.toList_ofList⟩

end LongPoll
