/-
# Failures that cannot happen

A session guards against failures of its own: a response that does not come after the newest one
buffered, nothing left to answer with, a position that was given out before. None of them happens.
The positions that responses are given in a run are 1, 2, 3, … (`Session.assigned_history`), so the
next one is new, comes after everything buffered, and after every position that a request can
acknowledge; and once there is no next position, the handler is not asked any more.

Key definitions: `Exchange.assigned`, `History.assigned`.
Key theorems: `Session.Tracks.takes`, `Session.Tracks.assigned_exchange`,
`Session.assigned_history`, `internal_failures_unreachable`.
-/
import LongPoll.Proofs.Decision

namespace LongPoll

open History

variable {β π : Type}

def Exchange.assigned (e : Exchange β π) : List Position :=
  match e.reply with
  | .respond _ => e.asked.map (·.position)
  | .fail _ | .panic _ => []

/-- The positions that responses were given, in the order in which they were given. -/
def History.assigned (h : History β π) : List Position := h.flatMap Exchange.assigned

theorem Exchange.assigned_of_asked_nil {e : Exchange β π} (h : e.asked = []) :
    e.assigned = [] := by
  unfold assigned
  split
  · rw [h, List.map_nil]
  · rfl
  · rfl

theorem History.assigned_concat {h : History β π} {e : Exchange β π} :
    assigned (h ++ [e]) = assigned h ++ e.assigned := by
  simp [assigned]

theorem Session.mem_asked_iff [DecidableEq β] {setup : Setup} {s : Session β π} {r : Request β}
    {reply : Reply π} {call : Invocation β} :
    call ∈ (s.exchange setup r reply).asked ↔ ∃ events, s.plan setup r = .invoke call events := by
  cases hplan : s.plan setup r with
  | answer outcome => simp [exchange_of_answer hplan]
  | invoke planned events => simp [exchange_of_invoke hplan, eq_comm]

namespace Session.Tracks

variable {s : Session β π} {h : History β π} (t : s.Tracks h) [DecidableEq β] {setup : Setup}
  {r : Request β} {call : Invocation β} {events : List Event}

include t

/-- A session takes the response that it asked for, and has one to answer with. -/
theorem takes (hplan : s.plan setup r = .invoke call events) (response : Response π) :
    s.buffer.refusal? { response with
        position := call.position, txnId := call.request.txnId } = none ∧
      ∃ session head, s.commit call response = (session, .ok head) := by
  obtain ⟨hpos, hle⟩ := t.of_invoke hplan
  constructor
  · apply t.buffer.refusal?
    rw [hpos, stream_length]
  · obtain ⟨-, head, -, hcommit⟩ := t.commit call hpos hle response
    exact ⟨_, head, hcommit⟩

/-- The positions given in one call carry on the numbering, one for each response produced. -/
theorem assigned_exchange (reply : Reply π) :
    let e := s.exchange setup r reply
    e.assigned.map Position.val = List.range' (1 + newest h) e.produced.length := by
  intro e
  cases hplan : s.plan setup r with
  | answer outcome =>
    have hasked : e.asked = [] := by simp only [e, exchange_of_answer hplan]
    rw [Exchange.assigned_of_asked_nil hasked, Exchange.produced_of_asked_nil hasked]
    rfl
  | invoke call events =>
    obtain ⟨hpos, -⟩ := t.of_invoke hplan
    simp only [e, exchange_of_invoke hplan, Exchange.assigned, Exchange.produced]
    cases reply with
    | respond response => simp [hpos, Nat.add_comm]
    | fail fault => rfl
    | panic payload => rfl

theorem assigned_run (ha : (assigned h).map Position.val = List.range' 1 (newest h))
    (calls : List (Request β × Reply π)) :
    (assigned (h ++ s.history setup calls)).map Position.val =
      List.range' 1 (newest (h ++ s.history setup calls)) := by
  induction calls generalizing s h with
  | nil => rwa [history, List.append_nil]
  | cons call rest ih =>
    obtain ⟨q, reply⟩ := call
    have tnext := t.concat (t.ending setup q reply)
    have hnext : (assigned (h ++ [s.exchange setup q reply])).map Position.val =
        List.range' 1 (newest (h ++ [s.exchange setup q reply])) := by
      rw [assigned_concat, List.map_append, ha, t.assigned_exchange, List.range'_append_1,
        newest_concat]
    rw [exchange_outcome] at tnext
    rw [history_cons, List.append_cons]
    exact ih tnext hnext

end Session.Tracks

/-- **The positions given out in a run are 1, 2, 3, …**, one for each response produced. -/
theorem Session.assigned_history [DecidableEq β] (setup : Setup)
    (calls : List (Request β × Reply π)) :
    (assigned (Session.start.history setup calls)).map Position.val =
      List.range' 1 (newest (Session.start.history setup calls)) :=
  tracks_start.assigned_run rfl calls

/-- **Internal failures are unreachable.** After any run of calls, one more call is never refused
for the order of positions, and acknowledges no more responses than there are. The positions given
out so far are 1, 2, 3, … up to the last position. If the handler is asked, the position for its
response is the one right after, so it is neither 0 nor was it given out before; a response takes
its place in the buffer, and after the acknowledgment there is one to answer with. Positions run
out only at the largest one, and then the handler is not asked. -/
theorem internal_failures_unreachable [DecidableEq β] (setup : Setup)
    (calls : List (Request β × Reply π)) (r : Request β) (reply : Reply π) :
    let s := (Session.start : Session β π).after setup calls
    let h := (Session.start : Session β π).history setup calls
    let e := s.exchange setup r reply
    (∀ position newest, e.outcome.result ≠ .error (.outOfOrder position newest)) ∧
      s.buffer.coveredBy r.position ≤ s.buffer.size ∧
      (assigned h).map Position.val = List.range' 1 s.lastPosition.val ∧
      (∀ call ∈ e.asked,
        call.position.val = s.lastPosition.val + 1 ∧
          call.position ≠ .initial ∧ call.position ∉ assigned h ∧
          ∀ response : Response π,
            s.buffer.refusal? { response with
              position := call.position, txnId := call.request.txnId } = none ∧
            ∃ session head, s.commit call response = (session, .ok head)) ∧
      ∀ last, e.outcome.result = .error (.positionOverflow last) →
        s.lastPosition.val = wordLimit - 1 ∧ last = s.lastPosition ∧ e.asked = [] := by
  intro s h e
  have t : s.Tracks h := Session.tracks_after setup calls
  have hruling : Ruling setup.limits s h e := t.ruling setup r reply
  have hassigned : (assigned h).map Position.val = List.range' 1 s.lastPosition.val := by
    rw [t.lastPosition]
    exact Session.assigned_history setup calls
  refine ⟨fun position newest hr => ?_, ?_, hassigned, fun call hcall => ?_, fun last hr => ?_⟩
  · cases hruling.failing hr
  · have := s.buffer.coveredBy_add_size r.position
    omega
  · obtain ⟨events, hplan⟩ := Session.mem_asked_iff.mp hcall
    have hnext : call.position.val = s.lastPosition.val + 1 := by
      rw [(t.of_invoke hplan).1, t.lastPosition]
    refine ⟨hnext, fun h0 => ?_, fun hmem => ?_, t.takes hplan⟩
    · rw [h0] at hnext
      exact Nat.succ_ne_zero _ hnext.symm
    · -- what was given out is at most the last position
      have hval : call.position.val ∈ (assigned h).map Position.val := List.mem_map_of_mem hmem
      rw [hassigned, List.mem_range'_1] at hval
      omega
  · cases hruling.failing hr with
    | exhausted last hk ho hf hn hlast ha =>
      exact ⟨t.lastPosition.trans hn, Position.val_inj.mp (hlast.trans t.lastPosition.symm), ha⟩

/-- The second of two requests is lost on a failing handler, so that the position 2 is not given
out; the third request asks the handler for it once more. -/
theorem internal_failures_unreachable_of_failure :
    let calls : List (Request Nat × Reply Nat) :=
      [(.fresh .initial 1, .respond (.fresh 10)), (.fresh (.ofNat 1) 1, .fail (.plain "down"))]
    let s := (Session.start : Session Nat Nat).after default calls
    let e := s.exchange default (.fresh (.ofNat 1) 2) (.respond (.fresh 20))
    ∃ call ∈ e.asked, call.position.val = 2 ∧
      call.position ∉ assigned ((Session.start : Session Nat Nat).history default calls) ∧
      ∃ session head, s.commit call (.fresh 20) = (session, .ok head) := by
  intro calls s e
  have hasked : ∃ call ∈ e.asked, call.position.val = 2 := by
    decide +kernel
  obtain ⟨call, hcall, hposition⟩ := hasked
  obtain ⟨-, -, hnew, htaken⟩ := (internal_failures_unreachable default calls
    (.fresh (.ofNat 1) 2) (.respond (.fresh 20))).2.2.2.1 call hcall
  exact ⟨call, hcall, hposition, hnew, (htaken (.fresh 20)).2⟩

end LongPoll
