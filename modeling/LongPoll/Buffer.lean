/-
# Responses awaiting acknowledgment

A buffer holds responses, oldest first. A response is added at the end, and only if its position
comes after every buffered one; a device that names a position acknowledges every response up to
it, which drops them from the front.

A buffer may grow long while its device is away, so the entries lie in an array, and dropped ones
stay in front of the others until they are at least as many. Statements are about `responses`, the
list of those not dropped: each operation has its equation there.

Key definitions: `Buffer`, `Buffer.responses`, `Buffer.push`, `Buffer.coveredBy`,
`Buffer.firstAfter`, `Buffer.acknowledge`.
Key theorems: `Buffer.responses_add`, `Buffer.responses_drop`, `Buffer.coveredBy_eq`,
`Buffer.acknowledge_responses`, `Buffer.coveredBy_eq_positions`, `Buffer.push_eq_error_iff`,
`Buffer.push_eq_ok_iff`, `Buffer.firstAfter_eq_head?`.
-/
import LongPoll.Message

namespace LongPoll

/-- Responses given out and not yet acknowledged. -/
structure Buffer (π : Type) where
  /-- Oldest first, after those that are dropped. -/
  entries : Array (Response π)
  /-- How many entries in front are dropped. -/
  dropped : Nat
  dropped_le : dropped ≤ entries.size
deriving DecidableEq

namespace Buffer

variable {π : Type}

def empty : Buffer π := ⟨#[], 0, Nat.le_refl 0⟩

instance : Inhabited (Buffer π) := ⟨empty⟩

/-- The responses, oldest first. -/
def responses (b : Buffer π) : List (Response π) := b.entries.toList.drop b.dropped

def size (b : Buffer π) : Nat := b.entries.size - b.dropped

def isEmpty (b : Buffer π) : Bool := b.size == 0

def positions (b : Buffer π) : List Position := b.responses.map (·.position)

/-- The oldest response. -/
def head? (b : Buffer π) : Option (Response π) := b.entries[b.dropped]?

def oldest? (b : Buffer π) : Option Position := b.head?.map (·.position)

def newest? (b : Buffer π) : Option Position :=
  if b.isEmpty then none else b.entries.back?.map (·.position)

/-- The newest position, if the response does not come after it. -/
def refusal? (b : Buffer π) (r : Response π) : Option Position :=
  b.newest?.filter fun newest => r.position ≤ newest

def add (b : Buffer π) (r : Response π) : Buffer π :=
  ⟨b.entries.push r, b.dropped, by have := b.dropped_le; simp only [Array.size_push]; omega⟩

/-- Adds a response at the end. If it does not come after the newest one it is refused, and the
answer is the newest position. -/
def push (b : Buffer π) (r : Response π) : Except Position (Buffer π) :=
  match b.refusal? r with
  | some newest => .error newest
  | none => .ok (b.add r)

/-- How many of the entries from index `i` on come at or before `p`, up to the first that does
not; at most `fuel` of them are looked at. -/
def covered (entries : Array (Response π)) (p : Position) : Nat → Nat → Nat
  | 0, _ => 0
  | fuel + 1, i =>
    match entries[i]? with
    | some r => if r.position ≤ p then covered entries p fuel (i + 1) + 1 else 0
    | none => 0

/-- How many responses at the front come at or before `p`. -/
def coveredBy (b : Buffer π) (p : Position) : Nat := covered b.entries p b.size b.dropped

/-- The response that is the oldest once `p` is acknowledged. -/
def firstAfter (b : Buffer π) (p : Position) : Option (Response π) :=
  b.entries[b.dropped + b.coveredBy p]?

def drop (b : Buffer π) (n : Nat) : Buffer π :=
  if n = 0 then b
  else
    let dropped := min (b.dropped + n) b.entries.size
    if b.entries.size ≤ 2 * dropped then ⟨b.entries.drop dropped, 0, Nat.zero_le _⟩
    else ⟨b.entries, dropped, Nat.min_le_right _ _⟩

/-- Drops the responses at the front that come at or before `p`. -/
def acknowledge (b : Buffer π) (p : Position) : Buffer π := b.drop (b.coveredBy p)

/-! ### The list of responses -/

@[simp] theorem responses_add (b : Buffer π) (r : Response π) :
    (b.add r).responses = b.responses ++ [r] := by
  have h : b.dropped ≤ b.entries.toList.length := by simpa using b.dropped_le
  simp [responses, add, List.drop_append_of_le_length h]

@[simp] theorem responses_drop (b : Buffer π) (n : Nat) :
    (b.drop n).responses = b.responses.drop n := by
  have hmin : b.entries.toList.drop (min (b.dropped + n) b.entries.size)
      = b.entries.toList.drop (b.dropped + n) := by
    rcases Nat.le_total (b.dropped + n) b.entries.size with h | h
    · rw [Nat.min_eq_left h]
    · rw [Nat.min_eq_right h, List.drop_eq_nil_of_le (by simp), List.drop_eq_nil_of_le (by simpa)]
  unfold drop
  split
  · next h => rw [h, List.drop_zero]
  · simp only [responses, List.drop_drop]
    rw [← hmin]
    split
    · simp [Array.drop, List.take_of_length_le]
    · rfl

theorem size_eq_length (b : Buffer π) : b.size = b.responses.length := by
  simp [size, responses]

theorem isEmpty_eq (b : Buffer π) : b.isEmpty = b.responses.isEmpty := by
  rw [isEmpty, size_eq_length]
  cases b.responses <;> rfl

theorem head?_eq (b : Buffer π) : b.head? = b.responses.head? := by
  rw [head?, responses, List.head?_drop, Array.getElem?_toList]

theorem newest?_eq (b : Buffer π) : b.newest? = b.responses.getLast?.map (·.position) := by
  unfold newest?
  split
  · next h =>
    rw [isEmpty_eq, List.isEmpty_iff] at h
    rw [h, List.getLast?_nil, Option.map_none]
  · next h =>
    have hlt : ¬ b.entries.toList.length ≤ b.dropped := by
      simp only [isEmpty, size, beq_iff_eq] at h
      simp only [Array.length_toList]
      omega
    rw [responses, List.getLast?_drop, if_neg hlt, Array.getLast?_toList]

theorem covered_eq (entries : Array (Response π)) (p : Position) (fuel i : Nat)
    (h : entries.size ≤ i + fuel) :
    covered entries p fuel i
      = ((entries.toList.drop i).takeWhile fun r => r.position ≤ p).length := by
  induction fuel generalizing i with
  | zero => rw [covered, List.drop_eq_nil_of_le (by simpa using h)]; rfl
  | succ fuel ih =>
    unfold covered
    split
    · next r hr =>
      obtain ⟨hi, rfl⟩ := Array.getElem?_eq_some_iff.mp hr
      rw [List.drop_eq_getElem_cons (by simpa using hi), Array.getElem_toList]
      split
      · next hle => rw [ih (i + 1) (by omega), List.takeWhile_cons_of_pos (by simpa using hle)]; rfl
      · next hle => rw [List.takeWhile_cons_of_neg (by simpa using hle)]; rfl
    · next hr =>
      rw [List.drop_eq_nil_of_le (by simpa using hr)]
      rfl

/-- The responses that `p` acknowledges are those at the front with positions up to `p`. -/
theorem coveredBy_eq (b : Buffer π) (p : Position) :
    b.coveredBy p = (b.responses.takeWhile fun r => r.position ≤ p).length :=
  covered_eq _ _ _ _ (by simp only [size]; omega)

theorem acknowledge_responses (b : Buffer π) (p : Position) :
    (b.acknowledge p).responses = b.responses.dropWhile fun r => r.position ≤ p := by
  rw [acknowledge, responses_drop, coveredBy_eq]
  induction b.responses with
  | nil => rfl
  | cons r rs ih => by_cases h : r.position ≤ p <;> simp [h, ih]

/-! ### The positions -/

theorem coveredBy_eq_positions (b : Buffer π) (p : Position) :
    b.coveredBy p = (b.positions.takeWhile fun q => q ≤ p).length := by
  rw [coveredBy_eq, positions, List.takeWhile_map, List.length_map]
  rfl

theorem oldest?_eq_positions (b : Buffer π) : b.oldest? = b.positions.head? := by
  rw [oldest?, head?_eq, positions, List.head?_map]

theorem newest?_eq_positions (b : Buffer π) : b.newest? = b.positions.getLast? := by
  rw [newest?_eq, positions, List.getLast?_map]

/-! ### Adding -/

theorem refusal?_eq_some_iff {b : Buffer π} {r : Response π} {p : Position} :
    b.refusal? r = some p ↔ b.newest? = some p ∧ r.position ≤ p := by
  simp [refusal?, Option.filter_eq_some_iff]

theorem push_eq_error_iff {b : Buffer π} {r : Response π} {p : Position} :
    b.push r = .error p ↔ b.newest? = some p ∧ r.position ≤ p := by
  rw [← refusal?_eq_some_iff, push]
  cases b.refusal? r <;> simp

theorem push_eq_ok_iff {b c : Buffer π} {r : Response π} :
    b.push r = .ok c ↔ b.refusal? r = none ∧ b.add r = c := by
  rw [push]
  cases b.refusal? r <;> simp

/-! ### Acknowledging -/

/-- Looking ahead finds the response that acknowledging would leave at the front. -/
theorem firstAfter_eq_head? (b : Buffer π) (p : Position) :
    b.firstAfter p = (b.acknowledge p).head? := by
  rw [head?_eq, acknowledge, responses_drop, List.head?_drop, firstAfter, responses,
    List.getElem?_drop, Array.getElem?_toList]

/-- What is covered and what stays is the whole buffer. -/
theorem coveredBy_add_size (b : Buffer π) (p : Position) :
    b.coveredBy p + (b.acknowledge p).size = b.size := by
  have hle : b.coveredBy p ≤ b.size := by
    rw [coveredBy_eq, size_eq_length]
    exact (List.takeWhile_sublist _).length_le
  rw [size_eq_length] at hle
  rw [size_eq_length, size_eq_length, acknowledge, responses_drop, List.length_drop]
  omega

theorem acknowledge_eq_self {b : Buffer π} {p : Position} (h : b.coveredBy p = 0) :
    b.acknowledge p = b := by
  rw [acknowledge, h, drop, if_pos rfl]

end Buffer
end LongPoll
