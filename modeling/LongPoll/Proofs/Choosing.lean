/-
# Positions named by their part in a session

A choice names a position by what a session shows of itself: the start, the newest response, the
oldest buffered one, or the last answered request, each with something to fall back on where there
is none. The session accepts a position by flags that it computes from its own state, where the
start is a case apart and what is absent matches nothing. In every session that tracks a history
the two describe one set (`Session.Tracks.known_iff_symbolic`): what a choice falls back on is the
start, because nothing is buffered and no request is answered only as long as nothing is produced.

Key definitions: `Choice.symbolic`, `Choice.request`, `Session.Accepts`.
Key theorems: `Session.Tracks.resolve_oldest`, `Session.Tracks.resolve_lastRequest`,
`Session.Tracks.known_iff_symbolic`, `Session.Tracks.accepts_iff`, `accepts_iff_symbolic`.
-/
import LongPoll.Proofs.Decision
import LongPoll.Snapshot

namespace LongPoll

open History

variable {β π : Type}

/-- The choices that go by a part in the session, and not by a number. -/
def Choice.symbolic : List Choice := [initial, newest, oldest, lastRequest]

def Choice.request (view : Snapshot) (r : Request β) (choice : Choice) : Request β :=
  { r with position := choice.resolve view }

/-- The session does not refuse the request for its position. -/
def Session.Accepts [DecidableEq β] (setup : Setup) (s : Session β π) (r : Request β)
    (reply : Reply π) : Prop :=
  ∀ p, (s.step setup r reply).result ≠ .error (.unknownPosition p)

namespace Session.Tracks

variable {s : Session β π} {h : History β π} (t : s.Tracks h)

include t

theorem resolve_newest : (Choice.newest.resolve s.snapshot).val = newest h := t.lastPosition

/-- Only a session without a response has an empty buffer, and then it falls back on 0. -/
theorem resolve_oldest :
    (Choice.oldest.resolve s.snapshot).val = if 0 < newest h then acked h + 1 else 0 := by
  have hresolve : Choice.oldest.resolve s.snapshot = s.buffer.oldest?.getD s.lastPosition := by
    rw [Buffer.oldest?_eq_positions]
    rfl
  rw [hresolve]
  cases ho : s.buffer.oldest? with
  | some p =>
    obtain ⟨hlt, hp⟩ := t.buffer.oldest?_eq_some_iff.mp ho
    rw [stream_length] at hlt
    rw [Option.getD_some, if_pos (by omega), hp]
  | none =>
    have hempty : s.buffer.size = 0 := by
      have hhead := Option.map_eq_none_iff.mp ho
      rw [Buffer.head?_eq, List.head?_eq_none_iff] at hhead
      rw [Buffer.size_eq_length, hhead, List.length_nil]
    have hsize := t.buffer.size
    rw [stream_length] at hsize
    have hacked := t.acked_lt
    have hnone : newest h = 0 := by omega
    rw [Option.getD_none, t.lastPosition, if_neg (by omega), hnone]

theorem resolve_lastRequest :
    Choice.lastRequest.resolve s.snapshot = ((last? h).map (·.position)).getD .initial := by
  rcases t.lastRequest_cases with ⟨hs, hh⟩ | ⟨q, r, hs, hh, hq⟩
  · simp [Choice.resolve, Session.snapshot, hs, hh]
  · simp [Choice.resolve, Session.snapshot, hs, hh, hq.position_eq]

theorem known_resolve {choice : Choice} (hchoice : choice ∈ Choice.symbolic) :
    Known h (choice.resolve s.snapshot) := by
  cases choice with
  | initial => exact .inl rfl
  | newest =>
    rcases Nat.eq_zero_or_pos (newest h) with h0 | hpos
    · exact .inl (t.resolve_newest.trans h0)
    · exact .inr (.inl ⟨hpos, .inr t.resolve_newest⟩)
  | oldest =>
    have hval := t.resolve_oldest
    rcases Nat.eq_zero_or_pos (newest h) with h0 | hpos
    · rw [if_neg (by omega)] at hval
      exact .inl hval
    · rw [if_pos hpos] at hval
      exact .inr (.inl ⟨hpos, .inl hval⟩)
  | lastRequest =>
    rw [t.resolve_lastRequest]
    cases hlast : last? h with
    | none => exact .inl rfl
    | some q => exact .inr (.inr ⟨q, hlast, rfl⟩)
  | arbitrary p => simp [Choice.symbolic] at hchoice

/-- **What a history makes known are the positions that have a name in the session.** -/
theorem known_iff_symbolic {p : Position} :
    Known h p ↔ ∃ choice ∈ Choice.symbolic, choice.resolve s.snapshot = p := by
  constructor
  · rintro (h0 | ⟨hpos, hp | hp⟩ | ⟨q, hq, rfl⟩)
    · exact ⟨.initial, by decide, Position.val_inj.mp h0.symm⟩
    · have holdest := t.resolve_oldest
      rw [if_pos hpos] at holdest
      exact ⟨.oldest, by decide, Position.val_inj.mp (holdest.trans hp.symm)⟩
    · exact ⟨.newest, by decide, Position.val_inj.mp (t.resolve_newest.trans hp.symm)⟩
    · refine ⟨.lastRequest, by decide, ?_⟩
      rw [t.resolve_lastRequest, hq, Option.map_some, Option.getD_some]
  · rintro ⟨choice, hchoice, rfl⟩
    exact t.known_resolve hchoice

/-- A session accepts exactly what its history makes known. -/
theorem accepts_iff [DecidableEq β] (setup : Setup) (r : Request β) (reply : Reply π) :
    s.Accepts setup r reply ↔ Known h r.position := by
  have hruling := t.ruling setup r reply
  have hposition : (s.exchange setup r reply).request = r := rfl
  simp only [Accepts, ← exchange_outcome, ne_eq, hruling.unknownPosition_iff, hposition, not_and]
  constructor
  · exact fun haccepts => Classical.byContradiction fun hunknown =>
      haccepts r.position hunknown rfl
  · exact fun hknown p hunknown => absurd hknown hunknown

end Session.Tracks

/-- **Names and acceptance agree.** After any run of calls, a request is accepted, whatever else it
carries and however the handler ends, exactly if its position is what one of the four symbolic
choices resolves to in the session as it shows itself. So none of the four is ever refused, be it
before the first call, and a position given by its number is accepted only if it coincides with one
of them. -/
theorem accepts_iff_symbolic [DecidableEq β] (setup : Setup) (calls : List (Request β × Reply π))
    (r : Request β) (reply : Reply π) :
    let s := (Session.start : Session β π).after setup calls
    (s.Accepts setup r reply ↔
        ∃ choice ∈ Choice.symbolic, choice.resolve s.snapshot = r.position) ∧
      (∀ choice ∈ Choice.symbolic, s.Accepts setup (choice.request s.snapshot r) reply) ∧
      ∀ p, s.Accepts setup ((Choice.arbitrary p).request s.snapshot r) reply ↔
        ∃ choice ∈ Choice.symbolic, choice.resolve s.snapshot = p := by
  intro s
  have t := Session.tracks_after (π := π) setup calls
  refine ⟨?_, fun choice hchoice => ?_, fun p => ?_⟩
  · rw [t.accepts_iff, t.known_iff_symbolic]
  · rw [t.accepts_iff]
    exact t.known_resolve hchoice
  · rw [t.accepts_iff, t.known_iff_symbolic]
    rfl

/-- The four choices name four positions: a response is left behind after the last answered
request, at position 1, and another one is queued. All of them are accepted, and position 4 is
not. -/
theorem accepts_iff_symbolic_of_queued :
    let ask (p body : Nat) : Request Nat := .fresh (.ofNat p) body
    let calls : List (Request Nat × Reply Nat) :=
      [(ask 0 1, .respond (.fresh 10)), (ask 1 1, .respond (.fresh 20)),
        (ask 1 2, .respond (.fresh 30))]
    let s := (Session.start : Session Nat Nat).after default calls
    Choice.symbolic.map (fun choice => (choice.resolve s.snapshot).val) = [0, 3, 2, 1] ∧
      Choice.oldest ∈ Choice.symbolic ∧ s.Accepts default (ask 2 3) (.panic .other) ∧
      ¬ s.Accepts default (ask 4 3) (.panic .other) := by
  intro ask calls s
  have hnames : Choice.symbolic.map (fun choice => (choice.resolve s.snapshot).val)
      = [0, 3, 2, 1] := by
    decide +kernel
  have holdest : Choice.oldest.request s.snapshot (ask 2 3) = ask 2 3 := by
    decide +kernel
  have hmem : Choice.oldest ∈ Choice.symbolic := by
    decide
  obtain ⟨-, haccepted, -⟩ :=
    accepts_iff_symbolic (π := Nat) default calls (ask 2 3) (.panic .other)
  obtain ⟨-, -, hnumbered⟩ :=
    accepts_iff_symbolic (π := Nat) default calls (ask 4 3) (.panic .other)
  refine ⟨hnames, hmem, ?_, fun haccepts => ?_⟩
  · exact holdest ▸ haccepted .oldest hmem
  · obtain ⟨choice, hchoice, hresolve⟩ := (hnumbered (.ofNat 4)).mp haccepts
    have hfour : 4 ∈ Choice.symbolic.map (fun choice => (choice.resolve s.snapshot).val) :=
      List.mem_map.mpr ⟨choice, hchoice, congrArg Position.val hresolve⟩
    rw [hnames] at hfour
    simp at hfour

end LongPoll
