/-
# What the handler is given

Whichever way a request comes to the handler, as the first one of a session, with a new body, or
with a changed body at a position it was sent from before, the handler is given it as it came, but
for the timeout. That one is the device's own if the request acknowledges everything buffered, and
at most the least one if it leaves a response behind (`Session.timeout_asked`), so no device waits
longer than that while there is something for it.

Whether a response is left behind is computed before the acknowledgment is applied, by counting at
the front of the buffer. It comes to the same as looking for a response after the request's position
(`Session.Waiting`, `Session.isEmpty_acknowledge_iff`).

Key definition: `Session.Waiting`.
Key theorems: `Session.isEmpty_acknowledge_iff`, `Session.timeout_asked`, `handler_given`.
-/
import Mathlib.Data.List.TakeWhile
import LongPoll.Proofs.EventTrace
import LongPoll.Proofs.Numbering

namespace LongPoll

variable {β π : Type}

namespace Session

/-- A response lies after `p` that was not delivered to a device at `p`. -/
def Waiting (s : Session β π) (p : Position) : Prop :=
  ∃ response ∈ s.buffer.responses, p < response.position

variable {s : Session β π} {setup : Setup} {r : Request β}

theorem isEmpty_acknowledge_iff (s : Session β π) (p : Position) :
    (s.buffer.acknowledge p).isEmpty = true ↔ ¬ s.Waiting p := by
  rw [Buffer.isEmpty_eq, Buffer.acknowledge_responses, List.isEmpty_iff,
    List.dropWhile_eq_nil_iff]
  simp only [decide_eq_true_eq, Waiting, not_exists, not_and, Position.lt_def, Position.le_def,
    Nat.not_lt]

theorem hurries_iff :
    s.Hurries setup r ↔ s.Waiting r.position ∧ setup.limits.minTimeout < r.timeout := by
  have hempty := s.isEmpty_acknowledge_iff r.position
  have hsize : 0 < (s.buffer.acknowledge r.position).size ↔ s.Waiting r.position := by
    rw [← not_iff_not, ← hempty, Buffer.isEmpty, beq_iff_eq, Nat.not_lt, Nat.le_zero]
  rw [Hurries, hsize]

/-- The timeout that the handler gets: the device's own, or the least one if that is shorter and a
response is waiting for the device. -/
theorem timeout_asked (setup : Setup) (s : Session β π) (r : Request β) :
    (¬ s.Waiting r.position → (s.asked setup r).timeout = r.timeout) ∧
      (s.Waiting r.position → (s.asked setup r).timeout.nanos =
        min r.timeout.nanos setup.limits.minTimeout.nanos) := by
  rw [asked_timeout]
  constructor
  · intro hnone
    rw [if_neg fun hh => hnone (hurries_iff.mp hh).1]
  · intro hwaiting
    by_cases hlong : setup.limits.minTimeout < r.timeout
    · rw [if_pos (hurries_iff.mpr ⟨hwaiting, hlong⟩), Nat.min_eq_right (Nat.le_of_lt hlong)]
    · rw [if_neg fun hh => hlong (hurries_iff.mp hh).2, Nat.min_eq_left (Nat.not_lt.mp hlong)]

/-- The handler is asked for nothing but the request with its timeout lowered. -/
theorem Tracks.request_asked [DecidableEq β] {h : History β π} (t : s.Tracks h)
    {reply : Reply π} {call : Invocation β} (hcall : call ∈ (s.exchange setup r reply).asked) :
    call.request = s.asked setup r := by
  obtain ⟨events, hplan⟩ := mem_asked_iff.mp hcall
  have hv := t.verdict setup r
  rw [hplan] at hv
  cases hv with
  | invoked position hk ho hf hpos => rfl

end Session

/-- **What the handler is given.** After any run of calls, a handler that is asked is given the
position, the body and the transaction id of the request as they came, and is told that the request
is the first of a session exactly if its position is 0. If the request acknowledges everything
buffered, the handler may take as long as the device is ready to wait; if a response lies after the
request's position, at most the least timeout. These are all cases. So the handler never gets more
time than the device gives, and while a response waits for the device no more than the least. -/
theorem handler_given [DecidableEq β] (setup : Setup) (calls : List (Request β × Reply π))
    (r : Request β) (reply : Reply π) :
    let s := (Session.start : Session β π).after setup calls
    ∀ call ∈ (s.exchange setup r reply).asked,
      call.request.position = r.position ∧ call.request.body = r.body ∧
        call.request.txnId = r.txnId ∧ (call.isInitial = true ↔ r.position.val = 0) ∧
        ((s.buffer.acknowledge r.position).isEmpty = true → call.request.timeout = r.timeout) ∧
        (s.Waiting r.position → call.request.timeout.nanos =
          min r.timeout.nanos setup.limits.minTimeout.nanos) ∧
        ((s.buffer.acknowledge r.position).isEmpty = true ↔ ¬ s.Waiting r.position) ∧
        call.request.timeout ≤ r.timeout ∧
        (s.Waiting r.position → call.request.timeout ≤ setup.limits.minTimeout) := by
  intro s call hcall
  have t := Session.tracks_after (π := π) setup calls
  have hasked : call.request = s.asked setup r := t.request_asked hcall
  have hshrunk : call.request.Shrunk r := hasked ▸ s.asked_shrunk setup r
  have hempty := s.isEmpty_acknowledge_iff r.position
  obtain ⟨hwhole, hlowered⟩ := s.timeout_asked setup r
  rw [← hasked] at hwhole hlowered
  have hinitial : call.isInitial = true ↔ r.position.val = 0 := by
    rw [Invocation.isInitial, Request.isInitial, Position.isInitial, hshrunk.position_eq,
      beq_iff_eq]
  refine ⟨hshrunk.position_eq, hshrunk.body_eq, hshrunk.txnId_eq, hinitial,
    fun hnone => hwhole (hempty.mp hnone), hlowered, hempty, hshrunk.2, fun hwaiting => ?_⟩
  rw [Duration.le_def, hlowered hwaiting]
  exact Nat.min_le_right _ _

/-- A device at position 1 has lost the second response and comes back with another body, ready to
wait for 30 seconds: the handler gets the new body, and one millisecond. -/
theorem handler_given_of_changed_body :
    let setup : Setup := default
    let calls : List (Request Nat × Reply Nat) :=
      [(.fresh .initial 1, .respond (.fresh 10)), (.fresh (.ofNat 1) 1, .respond (.fresh 20))]
    let s := (Session.start : Session Nat Nat).after setup calls
    let r : Request Nat := .fresh (.ofNat 1) 2
    let asked := (s.exchange setup r (.respond (.fresh 30))).asked
    asked.length = 1 ∧ s.Waiting r.position ∧
      ∀ call ∈ asked, call.request.body = 2 ∧ call.request.timeout ≤ .ofMillis 1 := by
  intro setup calls s r asked
  have hwaiting : s.Waiting r.position := by
    have hlost : s.buffer.responses = [{ position := .ofNat 2, txnId := "", payload := 20 }] := by
      decide +kernel
    refine ⟨_, hlost ▸ List.mem_singleton_self _, ?_⟩
    decide +kernel
  refine ⟨by decide +kernel, hwaiting, fun call hcall => ?_⟩
  have hgiven := handler_given setup calls r (.respond (.fresh 30)) call hcall
  exact ⟨hgiven.2.1, hgiven.2.2.2.2.2.2.2.2 hwaiting⟩

end LongPoll
