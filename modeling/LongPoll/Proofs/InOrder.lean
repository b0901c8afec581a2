/-
# A buffer is in order of position

A response is added only at the end, and only if it comes after the newest one; and responses are
dropped only in front. So from front to end positions increase, whatever was done to a buffer
before (`Buffer.Ordered.apply`, `Buffer.ordered_after`). That is why looking at the front of a
buffer is enough: the scan for the first response after a position stops exactly where the later
responses begin, and what is left when the position is acknowledged are the later responses, no
matter where they stood (`Buffer.Ordered.acknowledge_eq_filter`).

How the entries lie in their array depends on all that was done before, but the list of responses
is all that any answer depends on (`Buffer.answers_congr`).

Key definitions: `Buffer.Action`, `Buffer.Answer`, `Buffer.apply`, `Buffer.after`,
`Buffer.answers`, `Buffer.Ordered`.
Key theorems: `Buffer.Ordered.apply`, `Buffer.ordered_after`, `Buffer.Ordered.refusal?_eq_none_iff`,
`Buffer.Ordered.acknowledge_eq_filter`, `Buffer.Ordered.firstAfter_eq_some_iff`,
`Buffer.Ordered.coveredBy_add`, `Buffer.answers_congr`, `buffer_in_order`.
-/
import LongPoll.Buffer

namespace LongPoll

namespace Buffer

variable {π : Type}

/-! ### What can be done to a buffer -/

/-- What can be done to a buffer, and asked of it. -/
inductive Action (π : Type)
  | push (r : Response π)
  | acknowledge (p : Position)
  | coveredBy (p : Position)
  | firstAfter (p : Position)

/-- What is answered. -/
inductive Answer (π : Type)
  | added
  | refused (newest : Position)
  | count (n : Nat)
  | response (r? : Option (Response π))
deriving DecidableEq

def apply (b : Buffer π) : Action π → Buffer π × Answer π
  | .push r =>
    match b.push r with
    | .ok next => (next, .added)
    | .error newest => (b, .refused newest)
  | .acknowledge p => (b.acknowledge p, .count (b.coveredBy p))
  | .coveredBy p => (b, .count (b.coveredBy p))
  | .firstAfter p => (b, .response (b.firstAfter p))

def after (b : Buffer π) (actions : List (Action π)) : Buffer π :=
  actions.foldl (fun b a => (b.apply a).1) b

/-- The answers to several actions. -/
def answers (b : Buffer π) : List (Action π) → List (Answer π)
  | [] => []
  | a :: rest => (b.apply a).2 :: (b.apply a).1.answers rest

theorem apply_push_of_taken {b : Buffer π} {r : Response π} (h : b.refusal? r = none) :
    b.apply (.push r) = (b.add r, .added) := by
  have hpush : b.push r = .ok (b.add r) := push_eq_ok_iff.mpr ⟨h, rfl⟩
  rw [apply, hpush]

theorem apply_push_of_refused {b : Buffer π} {r : Response π} {newest : Position}
    (h : b.refusal? r = some newest) : b.apply (.push r) = (b, .refused newest) := by
  have hpush : b.push r = .error newest := push_eq_error_iff.mpr (refusal?_eq_some_iff.mp h)
  rw [apply, hpush]

/-! ### Only the responses count -/

/-- Two buffers with the same responses answer alike, and have the same responses afterwards. -/
theorem apply_congr {b c : Buffer π} (h : b.responses = c.responses) (a : Action π) :
    (b.apply a).2 = (c.apply a).2 ∧ (b.apply a).1.responses = (c.apply a).1.responses := by
  have hcovered (p : Position) : b.coveredBy p = c.coveredBy p := by
    rw [coveredBy_eq, coveredBy_eq, h]
  have hacknowledge (p : Position) : (b.acknowledge p).responses = (c.acknowledge p).responses := by
    rw [acknowledge_responses, acknowledge_responses, h]
  cases a with
  | push r =>
    have hrefusal : b.refusal? r = c.refusal? r := by
      rw [refusal?, refusal?, newest?_eq, newest?_eq, h]
    cases hc : c.refusal? r with
    | none =>
      rw [apply_push_of_taken hc, apply_push_of_taken (hrefusal.trans hc)]
      exact ⟨rfl, by rw [responses_add, responses_add, h]⟩
    | some newest =>
      rw [apply_push_of_refused hc, apply_push_of_refused (hrefusal.trans hc)]
      exact ⟨rfl, h⟩
  | acknowledge p => exact ⟨congrArg Answer.count (hcovered p), hacknowledge p⟩
  | coveredBy p => exact ⟨congrArg Answer.count (hcovered p), h⟩
  | firstAfter p =>
    refine ⟨congrArg Answer.response ?_, h⟩
    rw [firstAfter_eq_head?, firstAfter_eq_head?, head?_eq, head?_eq, hacknowledge]

/-- **No answer tells buffers with the same responses apart.** -/
theorem answers_congr {b c : Buffer π} (h : b.responses = c.responses) (actions : List (Action π)) :
    b.answers actions = c.answers actions := by
  induction actions generalizing b c with
  | nil => rfl
  | cons a rest ih =>
    obtain ⟨hanswer, hnext⟩ := apply_congr h a
    rw [answers, answers, hanswer, ih hnext]

/-! ### The order -/

/-- Positions increase from front to end. -/
def Ordered (b : Buffer π) : Prop := b.responses.Pairwise fun r s => r.position < s.position

theorem ordered_empty : (empty : Buffer π).Ordered := .nil

/-- Among responses in order, those after the front ones up to `p` are the ones after `p`. -/
theorem dropWhile_eq_filter {l : List (Response π)}
    (hl : l.Pairwise fun r s => r.position < s.position) (p : Position) :
    (l.dropWhile fun r => r.position ≤ p) = l.filter fun r => p < r.position := by
  induction l with
  | nil => rfl
  | cons r l ih =>
    rw [List.pairwise_cons] at hl
    obtain ⟨hr, hl⟩ := hl
    by_cases hp : r.position ≤ p
    · have hnot : ¬ p < r.position := Nat.not_lt_of_le hp
      rw [List.dropWhile_cons_of_pos (by simpa using hp),
        List.filter_cons_of_neg (by simpa using hnot), ih hl]
    · -- `r` comes after `p`, so all that come after `r` do
      have hlt : p < r.position := Nat.lt_of_not_le hp
      rw [List.dropWhile_cons_of_neg (by simpa using hp), eq_comm, List.filter_eq_self]
      intro s hs
      rw [decide_eq_true_eq]
      rcases List.mem_cons.mp hs with rfl | hs
      · exact hlt
      · exact Nat.lt_trans hlt (hr s hs)

theorem head?_eq_some_iff_le {l : List (Response π)}
    (hl : l.Pairwise fun r s => r.position < s.position) {r : Response π} :
    l.head? = some r ↔ r ∈ l ∧ ∀ s ∈ l, r.position ≤ s.position := by
  cases l with
  | nil => simp
  | cons a l =>
    obtain ⟨ha, -⟩ := List.pairwise_cons.mp hl
    rw [List.head?_cons, Option.some_inj]
    constructor
    · rintro rfl
      refine ⟨List.mem_cons_self, fun s hs => ?_⟩
      rcases List.mem_cons.mp hs with rfl | hs
      · exact Nat.le_refl _
      · exact Nat.le_of_lt (ha s hs)
    · rintro ⟨hr, hle⟩
      rcases List.mem_cons.mp hr with rfl | hr
      · rfl
      · exact absurd (ha r hr) (Nat.not_lt_of_le (hle a List.mem_cons_self))

namespace Ordered

variable {b : Buffer π} (hb : b.Ordered)

include hb

theorem positions : b.positions.Pairwise (· < ·) := List.pairwise_map.mpr hb

theorem le_newest {newest : Position} (h : b.newest? = some newest) :
    ∀ q ∈ b.positions, q ≤ newest := by
  rw [newest?_eq_positions, List.getLast?_eq_some_iff] at h
  obtain ⟨older, hpositions⟩ := h
  have hpairwise := hb.positions
  rw [hpositions, List.pairwise_append] at hpairwise
  obtain ⟨-, -, hlt⟩ := hpairwise
  intro q hq
  rw [hpositions] at hq
  rcases List.mem_append.mp hq with hq | hq
  · exact Nat.le_of_lt (hlt q hq newest List.mem_cons_self)
  · rw [List.mem_singleton.mp hq]
    exact Nat.le_refl _

/-- A response is taken exactly if it comes after everything buffered. -/
theorem refusal?_eq_none_iff {r : Response π} :
    b.refusal? r = none ↔ ∀ q ∈ b.positions, q < r.position := by
  constructor
  · intro h q hq
    cases hn : b.newest? with
    | none =>
      rw [newest?_eq_positions, List.getLast?_eq_none_iff] at hn
      rw [hn] at hq
      cases hq
    | some newest =>
      have hnot : ¬ r.position ≤ newest := by
        intro hle
        have hsome := refusal?_eq_some_iff.mpr ⟨hn, hle⟩
        rw [h] at hsome
        cases hsome
      calc q.val ≤ newest.val := hb.le_newest hn q hq
        _ < r.position.val := Nat.lt_of_not_le hnot
  · intro h
    rw [Option.eq_none_iff_forall_ne_some]
    intro newest hrefusal
    obtain ⟨hn, hle⟩ := refusal?_eq_some_iff.mp hrefusal
    rw [newest?_eq_positions] at hn
    exact absurd (h newest (List.mem_of_getLast? hn)) (Nat.not_lt_of_le hle)

/-! ### Acknowledging -/

/-- **Acknowledging keeps the later responses**, and all of them. -/
theorem acknowledge_eq_filter (p : Position) :
    (b.acknowledge p).responses = b.responses.filter fun r => p < r.position := by
  rw [acknowledge_responses, dropWhile_eq_filter hb]

theorem acknowledge (p : Position) : (b.acknowledge p).Ordered := by
  rw [Ordered, hb.acknowledge_eq_filter]
  exact hb.filter _

/-- The response after `p` has the smallest of the positions after `p`. -/
theorem firstAfter_eq_some_iff {p : Position} {r : Response π} :
    b.firstAfter p = some r ↔
      r ∈ b.responses ∧ p < r.position ∧
        ∀ s ∈ b.responses, p < s.position → r.position ≤ s.position := by
  rw [firstAfter_eq_head?, head?_eq, head?_eq_some_iff_le (hb.acknowledge p),
    hb.acknowledge_eq_filter]
  simp only [List.mem_filter, decide_eq_true_eq, and_assoc, and_imp]

theorem acknowledge_acknowledge (p q : Position) :
    ((b.acknowledge p).acknowledge q).responses = (b.acknowledge (max p q)).responses := by
  rw [(hb.acknowledge p).acknowledge_eq_filter, hb.acknowledge_eq_filter,
    hb.acknowledge_eq_filter, List.filter_filter]
  refine List.filter_congr fun r _ => ?_
  simp only [Position.max_lt_iff, Bool.decide_and, Bool.and_comm]

/-- What two positions acknowledge, one after the other, is what the larger of them acknowledges. -/
theorem coveredBy_add (p q : Position) :
    b.coveredBy p + (b.acknowledge p).coveredBy q = b.coveredBy (max p q) := by
  have hfirst := b.coveredBy_add_size p
  have hsecond := (b.acknowledge p).coveredBy_add_size q
  have hboth := b.coveredBy_add_size (max p q)
  have hsize : ((b.acknowledge p).acknowledge q).size = (b.acknowledge (max p q)).size := by
    rw [size_eq_length, size_eq_length, hb.acknowledge_acknowledge]
  omega

/-! ### Any action, and any number of them -/

theorem apply (a : Action π) : (b.apply a).1.Ordered := by
  cases a with
  | push r =>
    cases hr : b.refusal? r with
    | some newest =>
      rw [apply_push_of_refused hr]
      exact hb
    | none =>
      rw [apply_push_of_taken hr, Ordered, responses_add, List.pairwise_append]
      refine ⟨hb, List.pairwise_singleton _ _, fun s hs r' hr' => ?_⟩
      rw [List.mem_singleton.mp hr']
      exact hb.refusal?_eq_none_iff.mp hr s.position (List.mem_map_of_mem hs)
  | acknowledge p => exact hb.acknowledge p
  | coveredBy p => exact hb
  | firstAfter p => exact hb

theorem after (actions : List (Action π)) : (b.after actions).Ordered := by
  induction actions generalizing b with
  | nil => exact hb
  | cons a rest ih => exact ih (hb.apply a)

end Ordered

/-- **A buffer is in order**, whatever was done to it. -/
theorem ordered_after (actions : List (Action π)) : ((empty : Buffer π).after actions).Ordered :=
  ordered_empty.after actions

end Buffer

/-- **A buffer in order.** Whatever was done to a new buffer before, positions increase from front
to end. A response is added, at the end, exactly if nothing is buffered or it comes after all that
is; otherwise nothing changes, and the newest position is answered. Acknowledging a position keeps
the responses after it, in their order, and answers how many it drops; asking beforehand answers the
same number, and the response that is then in front, which has the smallest of the positions after
the one asked about, and asking changes nothing. Acknowledging one position and then another drops
as many responses as acknowledging the larger of them does, and leaves the same ones, so that
nothing answered later can tell which was done. -/
theorem buffer_in_order {π : Type} (actions : List (Buffer.Action π)) :
    let b := (Buffer.empty : Buffer π).after actions
    b.positions.Pairwise (· < ·) ∧
      (∀ r : Response π,
        ((b.responses = [] ∨ ∀ q ∈ b.positions, q < r.position) ↔
          ∃ c, b.apply (.push r) = (c, .added) ∧ c.responses = b.responses ++ [r]) ∧
        (¬ (b.responses = [] ∨ ∀ q ∈ b.positions, q < r.position) ↔
          ∃ newest, b.apply (.push r) = (b, .refused newest) ∧
            b.positions.getLast? = some newest)) ∧
      (∀ p, ∃ c n,
        b.apply (.acknowledge p) = (c, .count n) ∧
          c.responses = b.responses.filter (fun r => p < r.position) ∧ n + c.size = b.size ∧
          b.apply (.coveredBy p) = (b, .count n) ∧
          b.apply (.firstAfter p) = (b, .response c.head?) ∧
          ∀ r, c.head? = some r ↔ r ∈ b.responses ∧ p < r.position ∧
            ∀ s ∈ b.responses, p < s.position → r.position ≤ s.position) ∧
      ∀ p q,
        let c := b.after [.acknowledge p, .acknowledge q]
        let d := b.after [.acknowledge (max p q)]
        (∃ m n, b.answers [.acknowledge p, .acknowledge q] = [.count m, .count n] ∧
            b.answers [.acknowledge (max p q)] = [.count (m + n)]) ∧
          c.responses = d.responses ∧ ∀ later, c.answers later = d.answers later := by
  intro b
  have hb : b.Ordered := Buffer.ordered_after actions
  refine ⟨hb.positions, fun r => ?_, fun p => ?_, fun p q => ?_⟩
  · have htaken : (b.responses = [] ∨ ∀ q ∈ b.positions, q < r.position) ↔ b.refusal? r = none := by
      rw [hb.refusal?_eq_none_iff]
      refine or_iff_right_of_imp fun hnil q hq => ?_
      rw [Buffer.positions, hnil] at hq
      cases hq
    rw [htaken]
    cases hr : b.refusal? r with
    | none =>
      rw [Buffer.apply_push_of_taken hr]
      simp
    | some newest =>
      rw [Buffer.apply_push_of_refused hr, ← Buffer.newest?_eq_positions]
      simp [(Buffer.refusal?_eq_some_iff.mp hr).1]
  · refine ⟨b.acknowledge p, b.coveredBy p, rfl, hb.acknowledge_eq_filter p,
      b.coveredBy_add_size p, rfl, ?_, fun r => ?_⟩
    · rw [Buffer.apply, Buffer.firstAfter_eq_head?]
    · rw [← Buffer.firstAfter_eq_head?]
      exact hb.firstAfter_eq_some_iff
  · have hresponses : ((b.acknowledge p).acknowledge q).responses
        = (b.acknowledge (max p q)).responses := hb.acknowledge_acknowledge p q
    refine ⟨⟨b.coveredBy p, (b.acknowledge p).coveredBy q, rfl, ?_⟩, hresponses,
      Buffer.answers_congr hresponses⟩
    rw [hb.coveredBy_add]
    rfl

/-- After a cut at 4 the response at 5 is left, a second one for its position having been refused,
and the one at 9 is added. Then one at 7 is refused, and 6, which nothing stands at, drops the
first of the two. -/
theorem buffer_in_order_of_refused :
    let first : Response Nat := ⟨⟨3, by decide⟩, "a", 30⟩
    let second : Response Nat := ⟨⟨5, by decide⟩, "b", 50⟩
    let third : Response Nat := ⟨⟨9, by decide⟩, "c", 90⟩
    let late : Response Nat := ⟨⟨7, by decide⟩, "d", 70⟩
    let four : Position := ⟨4, by decide⟩
    let six : Position := ⟨6, by decide⟩
    let b := (Buffer.empty : Buffer Nat).after
      [.push first, .push second, .push { late with position := second.position },
        .acknowledge four, .push third]
    b.responses = [second, third] ∧ b.positions.Pairwise (· < ·) ∧
      b.apply (.push late) = (b, .refused third.position) ∧
      ∃ c, b.apply (.acknowledge six) = (c, .count 1) ∧ c.responses = [third] ∧
        b.apply (.firstAfter six) = (b, .response (some third)) := by
  intro first second third late four six b
  have hresponses : b.responses = [second, third] := by
    decide +kernel
  obtain ⟨hincreasing, hpush, hacknowledge, -⟩ := buffer_in_order
    [.push first, .push second, .push { late with position := second.position },
      .acknowledge four, .push third]
  refine ⟨hresponses, hincreasing, ?_, ?_⟩
  · have hlate : ¬ (b.responses = [] ∨ ∀ q ∈ b.positions, q < late.position) := by
      decide +kernel
    have hlast : b.positions.getLast? = some third.position := by
      decide +kernel
    obtain ⟨newest, happly, hnewest⟩ := (hpush late).2.mp hlate
    rw [hlast, Option.some_inj] at hnewest
    exact hnewest ▸ happly
  · obtain ⟨c, n, hdone, hkept, hcount, -, hfirst, -⟩ := hacknowledge six
    have hc : c.responses = [third] := by
      rw [hkept, hresponses]
      decide +kernel
    have hn : n = 1 := by
      rw [Buffer.size_eq_length, Buffer.size_eq_length, hc, hresponses] at hcount
      exact Nat.succ.inj hcount
    have hhead : c.head? = some third := by rw [Buffer.head?_eq, hc, List.head?_cons]
    exact ⟨c, hn ▸ hdone, hc, hhead ▸ hfirst⟩

end LongPoll
