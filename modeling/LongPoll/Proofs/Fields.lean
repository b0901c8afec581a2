/-
# What a field is read from

A field is read from one value, of a kind of its own: a string, a number of milliseconds that is
written as digits only, or a position, which is a string of digits or such a number. Each is read
from its kind of value and from no other, whatever way the value is written.

Key definitions: `Draft.IsString`, `Draft.PlainNumber`, `Draft.NamesPosition`.
Key theorems: `Draft.Numeral.read_eq_natCast_iff`, `Draft.asString_eq_ok_iff`,
`Wire.asMillis_eq_ok_iff`, `Wire.asPosition_eq_ok_iff`.
-/
import LongPoll.Proofs.PositionText
import LongPoll.Wire

namespace LongPoll

namespace Draft

/-! ### Kinds of values -/

/-- The value is the string `s`, however it is written. -/
def IsString (d : Draft) (s : String) : Prop := ∃ q, d = string q ∧ q.read = .ok s

/-- The value is the number `n`, written as digits only. -/
def PlainNumber (d : Draft) (n : Nat) : Prop :=
  ∃ m : Numeral, d = number m ∧ m.negative = false ∧ m.fraction = none ∧ m.exponent = none ∧
    Decimal.placeValue m.whole = n

/-- The value names the position `p`: a string of digits, or a number of digits only. -/
def NamesPosition (d : Draft) (p : Position) : Prop :=
  (∃ s, IsString d s ∧ s ≠ "" ∧ (∀ c ∈ s.toList, c.isDigit = true) ∧
      Decimal.placeValue s.toList = p.val) ∨
    PlainNumber d p.val

/-- A number reads as an integer that is not negative exactly if it is digits only and below the
limit of words. -/
theorem Numeral.read_eq_natCast_iff {m : Numeral} {n : Nat} :
    m.read = .ok (.int n) ↔ PlainNumber (number m) n ∧ n < wordLimit := by
  have hvalue : m.wholeValue = Decimal.placeValue m.whole :=
    Decimal.ofDigitChars_eq_placeValue m.whole
  have hplain : PlainNumber (number m) n ↔
      m.negative = false ∧ m.isWhole = true ∧ m.wholeValue = n := by
    simp [PlainNumber, isWhole, hvalue, and_assoc]
  rw [hplain]
  unfold read
  split
  · next h =>
    simp only [Bool.and_eq_true, Bool.not_eq_true', decide_eq_true_eq] at h
    obtain ⟨⟨hwhole, hsign⟩, hlt⟩ := h
    simp only [hwhole, hsign, Except.ok.injEq, Number.int.injEq, true_and]
    omega
  · next hpositive =>
    -- what is left is negative or a float, and no plain number below the limit is
    have hno : ¬ ((m.negative = false ∧ m.isWhole = true ∧ m.wholeValue = n) ∧ n < wordLimit) := by
      rintro ⟨⟨hsign, hwhole, rfl⟩, hlt⟩
      exact hpositive (by simp [hsign, hwhole, hlt])
    simp only [hno, iff_false]
    split
    · next h =>
      simp only [Bool.and_eq_true, decide_eq_true_eq] at h
      simp only [Except.ok.injEq, Number.int.injEq]
      omega
    · split <;> simp

theorem mismatch_ne_ok {α : Type} (expected : String) (d : Draft) (a : α) :
    mismatch expected d ≠ .ok a := by
  unfold mismatch
  split <;> simp

theorem ofBreak_eq_ok_iff {α : Type} {result : Except Break α} {a : α} :
    ofBreak result = .ok a ↔ result = .ok a := by
  cases result <;> simp [ofBreak]

theorem ofBreak_bind_eq_ok_iff {α β : Type} {result : Except Break α}
    {f : α → Except DecodeError β} {b : β} :
    (ofBreak result >>= f) = .ok b ↔ ∃ a, result = .ok a ∧ f a = .ok b := by
  cases result <;> simp [ofBreak, bind, Except.bind]

theorem asString_eq_ok_iff {d : Draft} {s : String} : asString d = .ok s ↔ IsString d s := by
  cases d with
  | string q => simp [asString, ofBreak_eq_ok_iff, IsString]
  | _ => simp [asString, IsString, mismatch_ne_ok]

end Draft

namespace Wire

open Draft

/-! ### Reading a field -/

theorem asMillis_number_iff {m : Numeral} {t : Duration} :
    asMillis (number m) = .ok t ↔ ∃ n : Nat, m.read = .ok (.int n) ∧ t = .ofMillis n := by
  unfold asMillis
  rw [ofBreak_bind_eq_ok_iff]
  constructor
  · rintro ⟨(n | n) | x, hread, h⟩
    · exact ⟨n, hread, (Except.ok.inj h).symm⟩
    · simp at h
    · cases h
  · rintro ⟨n, hread, rfl⟩
    exact ⟨.int n, hread, rfl⟩

theorem asPosition_number_iff {m : Numeral} {p : Position} :
    asPosition (number m) = .ok p ↔ m.read = .ok (.int p.val) := by
  unfold asPosition
  rw [ofBreak_bind_eq_ok_iff]
  constructor
  · rintro ⟨(n | n) | x, hread, h⟩
    · cases hn : Position.ofNat? n with
      | none => simp [hn] at h
      | some q =>
        obtain rfl : q = p := by simpa [hn, Int.not_lt.mpr (Int.natCast_nonneg n)] using h
        rw [hread, Position.ofNat?_eq_some_iff.mp hn]
        rfl
    · simp at h
    · cases h
  · intro hread
    refine ⟨.int p.val, hread, ?_⟩
    have hp := Position.ofNat?_eq_some_iff.mpr (rfl : p.val = p.val)
    simp [hp, Int.not_lt.mpr (Int.natCast_nonneg p.val)]

theorem asPosition_string_iff {q : Quoted} {p : Position} :
    asPosition (string q) = .ok p ↔ ∃ s, q.read = .ok s ∧ Position.parse? s = some p := by
  unfold asPosition
  simp only [ofBreak_bind_eq_ok_iff]
  refine exists_congr fun s => and_congr_right fun _ => ?_
  cases Position.parse? s <;> simp

theorem asMillis_eq_ok_iff {d : Draft} {t : Duration} :
    asMillis d = .ok t ↔ ∃ n, PlainNumber d n ∧ n < wordLimit ∧ t = .ofMillis n := by
  cases d with
  | number m => simp only [asMillis_number_iff, Numeral.read_eq_natCast_iff, and_assoc]
  | _ => simp [asMillis, PlainNumber, mismatch_ne_ok]

theorem asPosition_eq_ok_iff {d : Draft} {p : Position} :
    asPosition d = .ok p ↔ NamesPosition d p := by
  cases d with
  | number m =>
    rw [asPosition_number_iff, Numeral.read_eq_natCast_iff]
    simp [NamesPosition, IsString, p.lt_limit]
  | string q =>
    simp [asPosition_string_iff, NamesPosition, IsString, PlainNumber,
      Position.parse?_eq_some_iff]
  | _ => simp [asPosition, NamesPosition, IsString, PlainNumber, mismatch_ne_ok]

end Wire
end LongPoll
