/-
# Lengths of time

A duration counts nanoseconds. In whole milliseconds it is rounded down and held to a 64-bit word.

Key definitions: `Duration`, `Duration.ofMillis`, `Duration.millis`.
Key theorem: `Duration.millis_ofMillis`.
-/
import LongPoll.Position

namespace LongPoll

structure Duration where
  nanos : Nat
deriving DecidableEq, Inhabited

namespace Duration

instance : LT Duration := ⟨fun a b => a.nanos < b.nanos⟩

instance : LE Duration := ⟨fun a b => a.nanos ≤ b.nanos⟩

instance (a b : Duration) : Decidable (a < b) := inferInstanceAs (Decidable (a.nanos < b.nanos))

instance (a b : Duration) : Decidable (a ≤ b) := inferInstanceAs (Decidable (a.nanos ≤ b.nanos))

theorem le_def {a b : Duration} : a ≤ b ↔ a.nanos ≤ b.nanos := Iff.rfl

def ofMillis (n : Nat) : Duration := ⟨n * 1000000⟩

def ofSeconds (n : Nat) : Duration := ⟨n * 1000000000⟩

/-- Whole milliseconds, rounded down, at most the largest 64-bit word. -/
def millis (d : Duration) : Nat := min (d.nanos / 1000000) (wordLimit - 1)

theorem millis_lt (d : Duration) : d.millis < wordLimit := by
  have : 0 < wordLimit := by decide
  unfold millis
  omega

theorem millis_ofMillis {n : Nat} (h : n < wordLimit) : (ofMillis n).millis = n := by
  simp only [millis, ofMillis]
  rw [Nat.mul_div_cancel n (by decide)]
  omega

end Duration
end LongPoll
