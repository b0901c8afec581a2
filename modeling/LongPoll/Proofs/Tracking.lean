/-
# A session and its history

A session tracks a history if it holds what the history says: the number of responses produced,
the part of the stream that is not acknowledged, and the last answered request (`Tracks`). Then
everything that a session looks at is a matter of numbers of the history: which positions are
known, whether a body repeats, and how many responses a request leaves. So is the plan for a
request (`Tracks.verdict`), which has five cases.

Key definitions: `Session.Tracks`, `History.Known`, `History.pending`, `History.Owed`,
`History.Full`, `Verdict`.
Key theorems: `Session.Tracks.pending_eq`, `Session.Tracks.isKnown_iff`,
`Session.Tracks.isSame_iff`, `Session.Tracks.verdict`, `Session.Tracks.of_invoke`.
-/
import LongPoll.Proofs.Buffered
import LongPoll.Proofs.History

namespace LongPoll

variable {β π : Type}

/-- The request `q` is `r` up to a timeout that may be lowered. -/
def Request.Shrunk (q r : Request β) : Prop :=
  q = { r with timeout := q.timeout } ∧ q.timeout ≤ r.timeout

namespace Request.Shrunk

theorem refl (r : Request β) : r.Shrunk r := ⟨rfl, Nat.le_refl _⟩

variable {q r : Request β} (h : q.Shrunk r)

include h

theorem position_eq : q.position = r.position := by rw [h.1]

theorem body_eq : q.body = r.body := by rw [h.1]

theorem txnId_eq : q.txnId = r.txnId := by rw [h.1]

end Request.Shrunk

theorem Request.shrunk_shrinkTimeout (r : Request β) (limit : Duration) :
    (r.shrinkTimeout limit).Shrunk r := by
  unfold shrinkTimeout
  split
  · next h => exact ⟨rfl, Nat.le_of_lt h⟩
  · exact .refl r

theorem Session.asked_shrunk (setup : Setup) (s : Session β π) (r : Request β) :
    (s.asked setup r).Shrunk r := by
  unfold asked
  split
  · exact r.shrunk_shrinkTimeout _
  · exact .refl r

namespace History

variable (h : History β π)

/-- A position that a request may carry: 0, the one after the acknowledged, the newest, or that of
the last answered request. -/
def Known (p : Position) : Prop :=
  p.val = 0 ∨ (0 < newest h ∧ (p.val = acked h + 1 ∨ p.val = newest h)) ∨
    ∃ q, last? h = some q ∧ q.position = p

/-- How many responses a request at `p` leaves unacknowledged. -/
def pending (p : Position) : Nat := newest h - max (acked h) p.val

/-- The request repeats the body of the last answered one, and a response is left for it. A request
at position 0 is owed nothing. -/
def Owed (r : Request β) : Prop :=
  r.position.val ≠ 0 ∧ (∃ q, last? h = some q ∧ q.body = r.body) ∧ 0 < pending h r.position

/-- What a request at `p` leaves unacknowledged is as much as the limits allow. -/
def Full (limits : Limits) (p : Position) : Prop :=
  ∃ m, limits.maxBuffered = some m ∧ m ≤ pending h p

end History

open History

/-- What the session holds is what the history says. -/
structure Session.Tracks (s : Session β π) (h : History β π) : Prop where
  lastPosition : s.lastPosition.val = newest h
  buffer : s.buffer.Holds (stream h) (acked h)
  lastRequest : Option.Rel Request.Shrunk s.lastRequest? (last? h)
  acked_lt : 0 < newest h → acked h < newest h
  last_eq_none : last? h = none ↔ newest h = 0

namespace Session.Tracks

variable {s : Session β π} {h : History β π} (t : s.Tracks h)

include t

/-! ### What the session holds -/

theorem newest_lt : newest h < wordLimit := t.lastPosition ▸ s.lastPosition.lt_limit

theorem acked_le : acked h ≤ newest h := by
  rw [← stream_length]
  exact t.buffer.le

theorem stream_position {i : Nat} {r : Response π} (hi : (stream h)[i]? = some r) :
    r.position.val = i + 1 := by
  have hpos := congrArg (·[i]?) (stream_positions t.newest_lt)
  obtain ⟨hlen, -⟩ := List.getElem?_eq_some_iff.mp hi
  rw [stream_length] at hlen
  simp only [List.getElem?_map, hi, Option.map_some, List.getElem?_range' hlen] at hpos
  rw [Option.some_inj.mp hpos]
  omega

theorem pending_eq (r : Request β) : s.pending r = History.pending h r.position := by
  have hle := t.acked_le
  rw [Session.pending, History.pending, t.buffer.size, t.buffer.coveredBy, stream_length]
  omega

/-! ### How a request stands -/

theorem lastRequest_cases : (s.lastRequest? = none ∧ last? h = none) ∨
    ∃ q r, s.lastRequest? = some q ∧ last? h = some r ∧ q.Shrunk r := by
  have hrel := t.lastRequest
  generalize s.lastRequest? = recorded, last? h = last at hrel
  cases hrel with
  | none => exact Or.inl ⟨rfl, rfl⟩
  | some hq => exact Or.inr ⟨_, _, rfl, rfl, hq⟩

/-- What does not depend on a timeout holds of the recorded request if it holds of the last
answered one. -/
theorem exists_lastRequest {P : Request β → Prop} (hP : ∀ q r, q.Shrunk r → (P q ↔ P r)) :
    (∃ q, s.lastRequest? = some q ∧ P q) ↔ ∃ q, last? h = some q ∧ P q := by
  rcases t.lastRequest_cases with ⟨hs, hh⟩ | ⟨q, r, hs, hh, hq⟩
  · simp [hs, hh]
  · simpa [hs, hh] using hP q r hq

theorem known_le {p : Position} (hk : Known h p) : p.val ≤ newest h := by
  have hle := t.acked_le
  rcases hk with h0 | ⟨hpos, hp⟩ | ⟨q, hq, rfl⟩
  · omega
  · have := t.acked_lt hpos
    omega
  · exact Nat.le_trans (last?_le_acked hq) hle

/-- What the handler is asked acknowledges no response that is not produced yet. -/
theorem asked_le (setup : Setup) {r : Request β} (hk : Known h r.position) :
    (s.asked setup r).position.val ≤ newest h := by
  rw [(s.asked_shrunk setup r).position_eq]
  exact t.known_le hk

variable [DecidableEq β]

theorem isSame_iff (r : Request β) : (s.standing r).isSame = true ↔
    r.position.val ≠ 0 ∧ ∃ q, last? h = some q ∧ q.body = r.body := by
  rw [← t.exists_lastRequest (P := fun q => q.body = r.body) fun q r' hqr => by rw [hqr.body_eq]]
  simp [standing, Request.isInitial, Position.isInitial, Option.any_eq_true, Request.same]

theorem isRetransmit_iff (r : Request β) : (s.standing r).isRetransmit = true ↔
    r.position.val ≠ 0 ∧ ∃ q, last? h = some q ∧ q.position = r.position := by
  rw [← t.exists_lastRequest (P := fun q => q.position = r.position) fun q r' hqr => by
    rw [hqr.position_eq]]
  simp [standing, Request.isInitial, Position.isInitial, Option.any_eq_true]

theorem acksOldest_iff (r : Request β) : (s.standing r).acksOldest = true ↔
    0 < newest h ∧ r.position.val = acked h + 1 := by
  rw [standing, beq_iff_eq, t.buffer.oldest?_eq_some_iff, stream_length]
  have := t.acked_lt
  omega

theorem acksNewest_iff (r : Request β) : (s.standing r).acksNewest = true ↔
    0 < newest h ∧ r.position.val = newest h := by
  simp only [standing, Position.isInitial, Bool.and_eq_true, Bool.not_eq_true',
    beq_eq_false_iff_ne, beq_iff_eq, ← Position.val_inj, t.lastPosition]
  omega

/-- A session accepts the positions that its history makes known. -/
theorem isKnown_iff (r : Request β) : (s.standing r).isKnown = true ↔ Known h r.position := by
  have hinit : (s.standing r).isInitial = true ↔ r.position.val = 0 := by
    simp [standing, Request.isInitial, Position.isInitial]
  simp only [Standing.isKnown, Bool.or_eq_true, hinit, t.acksNewest_iff, t.acksOldest_iff,
    t.isRetransmit_iff, Known]
  by_cases h0 : r.position.val = 0
  · simp [h0]
  · simp only [h0, false_or, ne_eq, not_false_eq_true, true_and]
    rw [and_or_left, or_comm (a := 0 < newest h ∧ r.position.val = newest h)]

end Session.Tracks

/-! ### The plan for a request -/

/-- What a request comes to before the handler is asked, as its history has it. -/
inductive Verdict [DecidableEq β] (setup : Setup) (s : Session β π) (h : History β π)
    (r : Request β) : Plan β π → Prop
  | unknown (hk : ¬ Known h r.position) :
    Verdict setup s h r (.answer
      { session := s
        result := .error (.unknownPosition r.position)
        events := [.unknownPosition r.position] })
  | owed (head : Response π) (hk : Known h r.position) (ho : Owed h r)
      (hh : (stream h)[max (acked h) r.position.val]? = some head) :
    Verdict setup s h r (.answer (Session.conclude setup (s.standing r)
      (s.buffer.coveredBy r.position) [.replayed r.position head.position]
      { s with lastRequest? := some r, buffer := s.buffer.acknowledge r.position } (.ok head)))
  | full (limit : Nat) (hk : Known h r.position) (ho : ¬ Owed h r)
      (hm : setup.limits.maxBuffered = some limit) (hl : limit ≤ pending h r.position) :
    Verdict setup s h r (.answer (Session.conclude setup (s.standing r)
      (s.buffer.coveredBy r.position) (s.notices setup (s.standing r) r ++ [.bufferFull limit])
      s (.error (.bufferFull limit))))
  | exhausted (hk : Known h r.position) (ho : ¬ Owed h r)
      (hf : ¬ Full h setup.limits r.position) (hn : newest h = wordLimit - 1) :
    Verdict setup s h r (.answer (Session.conclude setup (s.standing r)
      (s.buffer.coveredBy r.position) (s.notices setup (s.standing r) r)
      s (.error (.positionOverflow s.lastPosition))))
  | invoked (position : Position) (hk : Known h r.position) (ho : ¬ Owed h r)
      (hf : ¬ Full h setup.limits r.position) (hp : position.val = newest h + 1) :
    Verdict setup s h r (.invoke
      { request := s.asked setup r, standing := s.standing r
        acked := s.buffer.coveredBy r.position, position }
      (s.notices setup (s.standing r) r))

namespace Session.Tracks

variable [DecidableEq β] {s : Session β π} {h : History β π} (t : s.Tracks h)

include t

omit [DecidableEq β] in
theorem isFull_iff (limits : Limits) (r : Request β) :
    limits.isFull (s.pending r) = true ↔ Full h limits r.position := by
  simp [Limits.isFull, Option.any_eq_true, Full, t.pending_eq]

theorem verdict_consult (setup : Setup) {r : Request β} (hk : Known h r.position)
    (ho : ¬ Owed h r) : Verdict setup s h r (s.consult setup (s.standing r) r) := by
  unfold consult
  by_cases hf : Full h setup.limits r.position
  · obtain ⟨limit, hm, hl⟩ := hf
    rw [if_pos ((t.isFull_iff _ r).mpr ⟨limit, hm, hl⟩), hm]
    exact .full limit hk ho hm hl
  · rw [if_neg fun hfull => hf ((t.isFull_iff _ r).mp hfull)]
    split
    · next hnext =>
      rw [Position.next?_eq_none_iff, t.lastPosition] at hnext
      exact .exhausted hk ho hf hnext
    · next position hnext =>
      rw [Position.next?_eq_some_iff, t.lastPosition] at hnext
      exact .invoked position hk ho hf hnext

/-- **The plan for a request is its verdict.** -/
theorem verdict (setup : Setup) (r : Request β) : Verdict setup s h r (s.plan setup r) := by
  by_cases hk : Known h r.position
  · have hknown := (t.isKnown_iff r).mpr hk
    by_cases ho : Owed h r
    · have hsame := (t.isSame_iff r).mpr ⟨ho.1, ho.2.1⟩
      have hlt : max (acked h) r.position.val < (stream h).length := by
        have := ho.2.2
        rw [History.pending] at this
        rw [stream_length]
        omega
      obtain ⟨head, hh⟩ : ∃ head, (stream h)[max (acked h) r.position.val]? = some head :=
        ⟨_, List.getElem?_eq_getElem hlt⟩
      have hserve : s.replay? r = some
          ({ s with lastRequest? := some r, buffer := s.buffer.acknowledge r.position }, head) := by
        rw [replay?, t.buffer.firstAfter, hh]
        rfl
      rw [plan_of_replay hknown hsame hserve]
      exact .owed head hk ho hh
    · have hnone : (s.standing r).isSame = true → s.replay? r = none := by
        intro hsame
        obtain ⟨h0, hbody⟩ := (t.isSame_iff r).mp hsame
        have hp : ¬ 0 < s.pending r := fun hp => ho ⟨h0, hbody, t.pending_eq r ▸ hp⟩
        rw [replay?_eq_none_iff]
        rw [Session.pending] at hp
        omega
      rw [plan_of_consult hknown hnone]
      exact t.verdict_consult setup hk ho
  · have hunknown : (s.standing r).isKnown = false := by
      rw [← Bool.not_eq_true, t.isKnown_iff]
      exact hk
    rw [plan_of_unknown hunknown]
    exact .unknown hk

/-- What the handler is asked acknowledges only what was produced, and its response will be next
after that. -/
theorem of_invoke {setup : Setup} {r : Request β} {call : Invocation β} {events : List Event}
    (hplan : s.plan setup r = .invoke call events) :
    call.position.val = newest h + 1 ∧ call.request.position.val ≤ newest h := by
  have hv := t.verdict setup r
  rw [hplan] at hv
  cases hv with
  | invoked position hk ho hf hpos => exact ⟨hpos, t.asked_le setup hk⟩

end Session.Tracks
end LongPoll
