/-
# A buffer that holds the end of a stream

The responses of a stream are numbered from 1, and a buffer holds those of them that come after
the first `m` (`Buffer.Holds`). Then each operation of the buffer is arithmetic on positions: how
many responses a position covers, which one comes after it, and from where on the buffer holds the
stream once the position is acknowledged or another response is added.

Key definition: `Buffer.Holds`.
Key theorems: `Buffer.Holds.positions`, `Buffer.Holds.coveredBy`, `Buffer.Holds.firstAfter`,
`Buffer.Holds.acknowledge`, `Buffer.Holds.refusal?`, `Buffer.Holds.add`.
-/
import LongPoll.Buffer

namespace LongPoll
namespace Buffer

variable {π : Type}

/-- The buffer holds what comes after the first `m` responses of a stream numbered from 1. -/
structure Holds (b : Buffer π) (l : List (Response π)) (m : Nat) : Prop where
  numbered : l.map (fun r => r.position.val) = List.range' 1 l.length
  responses : b.responses = l.drop m
  le : m ≤ l.length

/-- How many responses at the front come at or before `p`, if they are numbered from `m + 1`. -/
theorem takeWhile_length {l : List (Response π)} {m : Nat}
    (hl : l.map (fun r => r.position.val) = List.range' (m + 1) l.length) (p : Position) :
    (l.takeWhile fun r => r.position ≤ p).length = min l.length (p.val - m) := by
  induction l generalizing m with
  | nil => simp
  | cons r l ih =>
    rw [List.map_cons, List.length_cons, List.range'_succ, List.cons.injEq] at hl
    obtain ⟨hr, hl⟩ := hl
    by_cases hp : r.position ≤ p
    · have hle : m + 1 ≤ p.val := hr ▸ Position.le_def.mp hp
      rw [List.takeWhile_cons_of_pos (by simpa using hp), List.length_cons, List.length_cons, ih hl]
      omega
    · have hlt : p.val < m + 1 := by
        rw [Position.le_def, hr] at hp
        omega
      rw [List.takeWhile_cons_of_neg (by simpa using hp), List.length_nil, List.length_cons]
      omega

namespace Holds

variable {b : Buffer π} {l : List (Response π)} {m : Nat} (hb : b.Holds l m)

include hb

theorem size : b.size = l.length - m := by
  rw [size_eq_length, hb.responses, List.length_drop]

theorem positions :
    b.responses.map (fun r => r.position.val) = List.range' (m + 1) (l.length - m) := by
  rw [hb.responses, List.map_drop, hb.numbered, List.drop_range']
  congr 1
  omega

theorem position_le {r : Response π} (hr : r ∈ b.responses) : r.position.val ≤ l.length := by
  have hmem : r.position.val ∈ b.responses.map fun r => r.position.val :=
    List.mem_map.mpr ⟨r, hr, rfl⟩
  rw [hb.positions, List.mem_range'_1] at hmem
  have := hb.le
  omega

theorem lt_position {r : Response π} (hr : r ∈ b.responses) : m < r.position.val := by
  have hmem : r.position.val ∈ b.responses.map fun r => r.position.val :=
    List.mem_map.mpr ⟨r, hr, rfl⟩
  rw [hb.positions, List.mem_range'_1] at hmem
  omega

theorem mem_of_getElem? {i : Nat} {r : Response π} (hi : m ≤ i) (hr : l[i]? = some r) :
    r ∈ b.responses := by
  rw [hb.responses]
  refine List.mem_of_getElem? (i := i - m) ?_
  rw [List.getElem?_drop, Nat.add_sub_cancel' hi, hr]

theorem head? : b.head? = l[m]? := by
  rw [head?_eq, hb.responses, List.head?_drop]

theorem oldest?_eq_some_iff {p : Position} :
    b.oldest? = some p ↔ m < l.length ∧ p.val = m + 1 := by
  have hmap : b.oldest?.map Position.val = (List.range' (m + 1) (l.length - m)).head? := by
    rw [oldest?, head?_eq, Option.map_map, ← hb.positions, List.head?_map]
    rfl
  rw [List.head?_range'] at hmap
  cases ho : b.oldest? with
  | none =>
    rw [ho, Option.map_none] at hmap
    split at hmap
    · simp only [reduceCtorEq, false_iff]
      omega
    · cases hmap
  | some q =>
    rw [ho, Option.map_some] at hmap
    split at hmap
    · cases hmap
    · rw [Option.some_inj, ← Position.val_inj, Option.some_inj.mp hmap]
      omega

theorem coveredBy (p : Position) : b.coveredBy p = min (l.length - m) (p.val - m) := by
  have hp := hb.positions
  rw [← hb.size, size_eq_length] at hp
  rw [coveredBy_eq, takeWhile_length hp, ← hb.size, size_eq_length]

/-- What `p` leaves is the stream after `p`, or what was left of it before. -/
theorem drop_coveredBy (p : Position) : m + b.coveredBy p = min l.length (max m p.val) := by
  have := hb.le
  rw [hb.coveredBy]
  omega

theorem firstAfter (p : Position) : b.firstAfter p = l[max m p.val]? := by
  rw [firstAfter_eq_head?, head?_eq, Buffer.acknowledge, responses_drop, hb.responses,
    List.drop_drop, List.head?_drop, hb.drop_coveredBy]
  rcases Nat.le_total (max m p.val) l.length with hp | hp
  · rw [Nat.min_eq_right hp]
  · rw [Nat.min_eq_left hp, List.getElem?_eq_none (Nat.le_refl _), List.getElem?_eq_none hp]

/-- Acknowledging a position of the stream moves the front to it. -/
theorem acknowledge {p : Position} (hp : p.val ≤ l.length) :
    (b.acknowledge p).Holds l (max m p.val) where
  numbered := hb.numbered
  responses := by
    have := hb.le
    rw [Buffer.acknowledge, responses_drop, hb.responses, List.drop_drop, hb.drop_coveredBy,
      Nat.min_eq_right (by omega)]
  le := by
    have := hb.le
    omega

theorem refusal? {r : Response π} (hr : r.position.val = l.length + 1) : b.refusal? r = none := by
  rw [Option.eq_none_iff_forall_ne_some]
  intro newest h
  rw [refusal?_eq_some_iff, newest?_eq, Option.map_eq_some_iff] at h
  obtain ⟨⟨last, hlast, rfl⟩, hle⟩ := h
  have := hb.position_le (List.mem_of_getLast? hlast)
  rw [Position.le_def] at hle
  omega

theorem add {r : Response π} (hr : r.position.val = l.length + 1) :
    (b.add r).Holds (l ++ [r]) m where
  numbered := by
    rw [List.map_append, hb.numbered, List.length_append, List.range'_append_1.symm]
    simp [hr, Nat.add_comm]
  responses := by rw [responses_add, hb.responses, List.drop_append_of_le_length hb.le]
  le := by
    have := hb.le
    rw [List.length_append]
    omega

end Holds
end Buffer
end LongPoll
