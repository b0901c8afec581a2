/-
# Overlapping calls end as calls one after another

Between the plan of a call and the reply of its handler other calls arrive, cancel it and queue up,
but none of that touches the session: only the call that holds it does, and it holds it from its
plan to its result. So the session is at any time what the calls that have a result make of a new
one, one after another in the order in which they took it, and each of them has the result that it
has there. The one call that may be in the handler was planned on that session (`Line.InTurn`).

Key definitions: `Line.Status`, `Line.result?`, `Line.arrivals`, `Line.turns`, `Line.given`,
`Line.finished`, `Line.sequence`, `Line.InTurn`.
Key theorems: `Line.Run.exclusive`, `Line.InTurn.moved`, `Line.Run.inTurn`,
`overlapping_calls_linearized`.
-/
import LongPoll.Proofs.Invariant
import LongPoll.Proofs.Moves
import Mathlib.Data.List.Nodup

namespace LongPoll

variable {β π : Type}

namespace Session

variable [DecidableEq β] {setup : Setup} {s : Session β π}

/-! ### One more call at the end of a run -/

theorem after_concat (calls : List (Request β × Reply π)) (r : Request β) (reply : Reply π) :
    s.after setup (calls ++ [(r, reply)]) =
      ((s.after setup calls).step setup r reply).session := by
  rw [after_append]
  rfl

theorem run_concat (calls : List (Request β × Reply π)) (r : Request β) (reply : Reply π) :
    s.run setup (calls ++ [(r, reply)]) =
      s.run setup calls ++ [(s.after setup calls).step setup r reply] := by
  rw [← history_outcome, history_append, List.map_append, history_outcome, history_outcome]
  rfl

/-! ### A response for a call in the handler -/

/-- A handler that answers what it was asked always has its response taken: at the position after
the newest one, into the buffer, and some response is left to answer with. -/
theorem Tracks.finish_respond {h : History β π} (t : s.Tracks h) {r : Request β}
    {call : Invocation β} {events : List Event} (hplan : s.plan setup r = .invoke call events)
    (response : Response π) :
    let outcome := s.finish setup call (.respond response)
    call.position.val = s.lastPosition.val + 1 ∧ (∃ head, outcome.result = .ok head) ∧
      outcome.session.lastPosition = call.position ∧
      outcome.session.lastRequest? = some call.request ∧
      { response with position := call.position, txnId := call.request.txnId }
        ∈ outcome.session.buffer.responses := by
  intro outcome
  obtain ⟨hpos, hle⟩ := t.of_invoke hplan
  obtain ⟨hholds, head, -, hcommit⟩ := t.commit call hpos hle response
  simp only [outcome, finish, hcommit, conclude]
  refine ⟨by rw [hpos, t.lastPosition], ⟨head, rfl⟩, trivial, trivial, ?_⟩
  -- it comes last in the stream, and not all of the stream is acknowledged
  refine hholds.mem_of_getElem? (i := History.newest h) (Nat.max_le.mpr ⟨t.acked_le, hle⟩) ?_
  rw [← History.stream_length, List.getElem?_concat_length]

end Session

namespace Line

/-! ### What a run is made of -/

/-- How far a call has come with the session. -/
inductive Status (β π : Type)
  | queued (request : Request β)
  | working (call : Invocation β)
  | ended (result : Except SessionError (Response π))

def Phase.status : Phase β π → Status β π
  | arrived request _ | waiting request => .queued request
  | inHandler call => .working call
  | served result | left result | closed result => .ended result

def status? (l : Line β π) (i : Nat) : Option (Status β π) := (l.phase? i).map Phase.status

def Status.result? : Status β π → Option (Except SessionError (Response π))
  | ended result => some result
  | queued _ | working _ => none

/-- The result of a call, if it has one yet. -/
def result? (l : Line β π) (i : Nat) : Option (Except SessionError (Response π)) :=
  (l.status? i).bind Status.result?

def Move.request? : Move β π → Option (Request β)
  | arrive r => some r
  | _ => none

/-- The call that takes the session by the move. -/
def Move.taker? : Move β π → Option Nat
  | acquire i => some i
  | _ => none

/-- The reply that the handler gives to call `i` by the move. -/
def Move.replyTo? (i : Nat) : Move β π → Option (Reply π)
  | .reply j given => if j = i then some given else none
  | _ => none

def arrivals (moves : List (Move β π)) : List (Request β) := moves.filterMap Move.request?

/-- The calls that took the session, in this order. -/
def turns (moves : List (Move β π)) : List Nat := moves.filterMap Move.taker?

/-- The reply that the handler gave to call `i`, if it was asked and is done. -/
def given (moves : List (Move β π)) (i : Nat) : Option (Reply π) :=
  moves.findSome? (Move.replyTo? i)

/-- The calls that have a result, in the order in which they took the session. -/
def finished (moves : List (Move β π)) (l : Line β π) : List Nat :=
  (turns moves).filter fun i => (l.result? i).isSome

/-- The calls of `order` one after another, each with its request and what its handler replies. -/
def sequence (requests : List (Request β)) (outcome : Nat → Reply π) (order : List Nat) :
    List (Request β × Reply π) :=
  order.filterMap fun i => requests[i]?.map fun r => (r, outcome i)

theorem sequence_concat {requests : List (Request β)} {i : Nat} {r : Request β}
    (hr : requests[i]? = some r) (outcome : Nat → Reply π) (order : List Nat) :
    sequence requests outcome (order ++ [i]) =
      sequence requests outcome order ++ [(r, outcome i)] := by
  simp [sequence, hr]

theorem sequence_arrive {requests : List (Request β)} {order : List Nat}
    (h : ∀ i ∈ order, i < requests.length) (r : Request β) (outcome : Nat → Reply π) :
    sequence (requests ++ [r]) outcome order = sequence requests outcome order := by
  refine List.filterMap_congr fun i hi => ?_
  rw [List.getElem?_append_left (h i hi)]

variable {l k next : Line β π} {i : Nat} {old : Phase β π}

theorem status?_withPhase (hk : k.calls = l.calls) (hp : l.phase? i = some old) (p : Phase β π)
    (j : Nat) :
    (k.withPhase i p).status? j = if j = i then some p.status else l.status? j := by
  rw [status?, phase?_withPhase hk hp]
  split <;> rfl

theorem status?_reply (hp : l.phase? i = some old) (setup : Setup) (call : Invocation β)
    (reply : Reply π) : (l.reply setup i call reply).1.status? i =
      some (.ended (l.session.finish setup call reply).result) := by
  have hstatus := status?_withPhase (k := { l with
    session := (l.session.finish setup call reply).session }) rfl hp
    (.served (l.session.finish setup call reply).result) i
  rwa [if_pos rfl] at hstatus

theorem status?_arrive (l : Line β π) (r : Request β) (j : Nat) : (l.arrive r).status? j =
    if j = l.calls.length then some (.queued r) else l.status? j := by
  rw [status?, phase?_arrive]
  split <;> rfl

theorem status?_of_phase? {p : Phase β π} (hp : l.phase? i = some p) :
    l.status? i = some p.status := by
  rw [status?, hp, Option.map_some]

theorem phase?_of_working {call : Invocation β} (h : l.status? i = some (.working call)) :
    l.phase? i = some (.inHandler call) := by
  obtain ⟨p, hp, hstatus⟩ := Option.map_eq_some_iff.mp h
  cases p <;> cases hstatus
  exact hp

theorem result?_eq_some_iff {result : Except SessionError (Response π)} :
    l.result? i = some result ↔ l.status? i = some (.ended result) := by
  rw [result?]
  cases l.status? i with
  | none => simp
  | some status => cases status <;> simp [Status.result?]

/-! ### One call at a time -/

/-- The call holds the session in this phase. -/
def Phase.holds : Phase β π → Bool
  | inHandler _ | served _ => true
  | arrived _ _ | waiting _ | left _ | closed _ => false

/-- A call holds the session only if the line says so. -/
def Exclusive (l : Line β π) : Prop :=
  ∀ i p, l.phase? i = some p → p.holds = true → l.holder = some i

namespace Exclusive

variable (hx : l.Exclusive)

include hx

theorem advance {new : Phase β π} (hk : k.calls = l.calls) (hholder : k.holder = l.holder)
    (hp : l.phase? i = some old) (hnew : new.holds = true → old.holds = true) :
    (k.withPhase i new).Exclusive := by
  intro j p hj hholds
  rw [phase?_withPhase hk hp] at hj
  rw [holder_withPhase, hholder]
  split at hj
  · next hji =>
    cases hj
    exact hji ▸ hx i old hp (hnew hholds)
  · exact hx j p hj hholds

theorem take {new : Phase β π} (hk : k.calls = l.calls) (hholder : k.holder = some i)
    (hfree : l.holder = none) (hp : l.phase? i = some old) : (k.withPhase i new).Exclusive := by
  intro j p hj hholds
  rw [phase?_withPhase hk hp] at hj
  rw [holder_withPhase, hholder]
  split at hj
  · next hji => rw [hji]
  · have := hx j p hj hholds
    rw [hfree] at this
    cases this

theorem give {new : Phase β π} (hk : k.calls = l.calls) (hp : l.phase? i = some old)
    (hold : old.holds = true) (hnew : new.holds = false) : (k.withPhase i new).Exclusive := by
  intro j p hj hholds
  rw [phase?_withPhase hk hp] at hj
  split at hj
  · cases hj
    rw [hnew] at hholds
    cases hholds
  · next hji =>
    have hholder := (hx j p hj hholds).symm.trans (hx i old hp hold)
    exact absurd (Option.some_inj.mp hholder) hji

theorem arrive (r : Request β) : (l.arrive r).Exclusive := by
  intro j p hj hholds
  rw [phase?_arrive] at hj
  split at hj
  · cases hj
    cases hholds
  · exact hx j p hj hholds

theorem cancelInFlight : l.cancelInFlight.Exclusive := by
  rw [cancelInFlight_eq]
  exact hx

theorem moved [DecidableEq β] {setup : Setup} {m : Move β π} {events : List Event}
    (hm : Moved setup l m next events) : next.Exclusive := by
  cases hm with
  | arrived r => exact hx.arrive r
  | found i r replaced hp hold => exact hx.advance rfl rfl hp nofun
  | preempted i r old hp hold => exact hx.advance rfl rfl hp nofun
  | answered i r outcome hp hh hplan => exact hx.take rfl rfl hh hp
  | invoked i r call planned hp hh hplan => exact hx.take rfl rfl hh hp
  | replied i call reply hp => exact hx.advance rfl rfl hp fun _ => rfl
  | gone i result hp => exact hx.give rfl hp rfl rfl
  | released i token result hc => exact hx.advance rfl rfl (phase?_of_call hc) nofun
  | cancelled => exact hx.cancelInFlight
  | destroyed => exact hx.cancelInFlight

/-- Only the call that holds the session can be in the handler. -/
theorem holder_of_working {call : Invocation β} (h : l.status? i = some (.working call)) :
    l.holder = some i :=
  hx i _ (phase?_of_working h) rfl

end Exclusive

/-- **Only one call holds the session at a time.** -/
theorem Run.exclusive [DecidableEq β] {setup : Setup} {moves : List (Move β π)}
    {events : List Event} (hrun : Run setup moves l events) : l.Exclusive := by
  induction hrun with
  | start => simp [Exclusive]
  | concat hrun hmove ih => exact ih.moved (moved_of_move? hmove)

/-! ### Calls in turn -/

variable [DecidableEq β] {setup : Setup} {outcome : Nat → Reply π} {requests : List (Request β)}
  {taken : List Nat} {done : List Nat}

/-- The calls `done` have their results, and made of a new session what there is now; of the calls
that took the session, at most the last one still has it and is in the handler. -/
structure InTurn (setup : Setup) (outcome : Nat → Reply π) (requests : List (Request β))
    (taken : List Nat) (l : Line β π) (done : List Nat) : Prop where
  length : l.calls.length = requests.length
  queued : ∀ i r, l.status? i = some (.queued r) → requests[i]? = some r ∧ i ∉ taken
  working : ∀ i call, l.status? i = some (.working call) → taken = done ++ [i] ∧
    ∃ r events, requests[i]? = some r ∧ l.session.plan setup r = .invoke call events
  idle : (∀ i call, l.status? i ≠ some (.working call)) → taken = done
  ended : ∀ i, i ∈ done ↔ ∃ result, l.status? i = some (.ended result)
  nodup : taken.Nodup
  session : l.session = Session.start.after setup (sequence requests outcome done)
  results : done.map l.result? =
    (Session.start.run setup (sequence requests outcome done)).map (some ·.result)

theorem inTurn_start : InTurn setup outcome [] [] (start : Line β π) [] where
  length := rfl
  queued := by simp [status?]
  working := by simp [status?]
  idle := fun _ => rfl
  ended := by simp [status?]
  nodup := .nil
  session := rfl
  results := rfl

namespace InTurn

variable (ht : InTurn setup outcome requests taken l done)

include ht

theorem notMem_done {status : Status β π} (hs : l.status? i = some status)
    (hnot : ∀ result, status ≠ .ended result) : i ∉ done := by
  intro hi
  obtain ⟨result, hresult⟩ := (ht.ended i).mp hi
  exact hnot result (Option.some_inj.mp (hs.symm.trans hresult))

theorem done_lt (hi : i ∈ done) : i < requests.length := by
  obtain ⟨result, hresult⟩ := (ht.ended i).mp hi
  obtain ⟨p, hp, -⟩ := Option.map_eq_some_iff.mp hresult
  exact ht.length ▸ phase?_lt hp

/-- Either every call that took the session is done, or the last one of them is in the handler. -/
theorem taken_cases : taken = done ∨
    ∃ i call, l.status? i = some (.working call) ∧ taken = done ++ [i] := by
  by_cases h : ∃ i call, l.status? i = some (.working call)
  · obtain ⟨i, call, hi⟩ := h
    exact .inr ⟨i, call, hi, (ht.working i call hi).1⟩
  · exact .inl (ht.idle fun i call hi => h ⟨i, call, hi⟩)

theorem taken_lt (hi : i ∈ taken) : i < requests.length := by
  rcases ht.taken_cases with htaken | ⟨j, call, hj, htaken⟩
  · exact ht.done_lt (htaken ▸ hi)
  · rw [htaken, List.mem_append, List.mem_singleton] at hi
    rcases hi with hi | rfl
    · exact ht.done_lt hi
    · exact ht.length ▸ phase?_lt (phase?_of_working hj)

theorem done_nodup : done.Nodup := by
  rcases ht.taken_cases with htaken | ⟨i, call, -, htaken⟩
  · exact htaken ▸ ht.nodup
  · exact (htaken ▸ ht.nodup : (done ++ [i]).Nodup).of_append_left

omit [DecidableEq β] ht in
/-- The results of the calls that are done stay what they are if their status does. -/
theorem results_congr (hstatus : ∀ j ∈ done, next.status? j = l.status? j) :
    done.map next.result? = done.map l.result? :=
  List.map_congr_left fun j hj => by rw [result?, hstatus j hj, result?]

/-! #### What each kind of move keeps -/

/-- Moves that no call's status tells of. -/
theorem frame (hlength : next.calls.length = l.calls.length) (hsession : next.session = l.session)
    (hstatus : ∀ j, next.status? j = l.status? j) :
    InTurn setup outcome requests taken next done where
  length := hlength.trans ht.length
  queued := fun j r hj => ht.queued j r (hstatus j ▸ hj)
  working := fun j call hj => by
    rw [hsession]
    exact ht.working j call (hstatus j ▸ hj)
  idle := fun h => ht.idle fun j call => hstatus j ▸ h j call
  ended := fun j => by rw [hstatus]; exact ht.ended j
  nodup := ht.nodup
  session := hsession.trans ht.session
  results := (results_congr fun j _ => hstatus j).trans ht.results

theorem advance {new : Phase β π} (hk : k.calls = l.calls) (hsession : k.session = l.session)
    (hp : l.phase? i = some old) (hstatus : new.status = old.status) :
    InTurn setup outcome requests taken (k.withPhase i new) done := by
  refine ht.frame ?_ hsession fun j => ?_
  · rw [length_withPhase, hk]
  · rw [status?_withPhase hk hp]
    split
    · next hji => rw [hji, hstatus, status?_of_phase? hp]
    · rfl

theorem cancelInFlight : InTurn setup outcome requests taken l.cancelInFlight done := by
  rw [cancelInFlight_eq]
  exact ht.frame rfl rfl fun _ => rfl

theorem arrive (r : Request β) :
    InTurn setup outcome (requests ++ [r]) taken (l.arrive r) done := by
  -- the new call is not among those that are there
  have hstatus {j : Nat} {status : Status β π} (hj : l.status? j = some status) :
      (l.arrive r).status? j = some status ∧ j < requests.length := by
    obtain ⟨p, hp, -⟩ := Option.map_eq_some_iff.mp hj
    have hlt := phase?_lt hp
    rw [status?_arrive, if_neg (Nat.ne_of_lt hlt)]
    exact ⟨hj, ht.length ▸ hlt⟩
  have hnew {j : Nat} {status : Status β π} (hj : (l.arrive r).status? j = some status)
      (hne : ∀ r, status ≠ .queued r) : l.status? j = some status := by
    rw [status?_arrive] at hj
    split at hj
    · exact absurd (Option.some_inj.mp hj).symm (hne r)
    · exact hj
  have hsequence : sequence (requests ++ [r]) outcome done = sequence requests outcome done :=
    sequence_arrive (fun _ => ht.done_lt) r outcome
  refine ⟨?_, fun j r' hj => ?_, fun j call hj => ?_, fun h => ?_, fun j => ?_, ht.nodup, ?_, ?_⟩
  · simp [Line.arrive, ht.length]
  · rw [status?_arrive] at hj
    split at hj
    · next hlast =>
      cases hj
      refine ⟨by rw [hlast, ht.length, List.getElem?_concat_length], fun hmem => ?_⟩
      exact Nat.lt_irrefl _ (hlast ▸ ht.length ▸ ht.taken_lt hmem)
    · obtain ⟨hr, htaken⟩ := ht.queued j r' hj
      exact ⟨by rw [List.getElem?_append_left (hstatus hj).2, hr], htaken⟩
  · have hbefore := hnew hj (by simp)
    obtain ⟨htaken, r', events, hr, hplan⟩ := ht.working j call hbefore
    refine ⟨htaken, r', events, ?_, hplan⟩
    rw [List.getElem?_append_left (hstatus hbefore).2, hr]
  · exact ht.idle fun j call hj => h j call (hstatus hj).1
  · rw [ht.ended]
    exact exists_congr fun result => ⟨fun hj => (hstatus hj).1, fun hj => hnew hj (by simp)⟩
  · rw [hsequence]
    exact ht.session
  · rw [hsequence, ← ht.results]
    refine results_congr fun j hj => ?_
    obtain ⟨result, hresult⟩ := (ht.ended j).mp hj
    rw [hresult, (hstatus hresult).1]

theorem invoke {r : Request β} {call : Invocation β} {events : List Event}
    (hidle : ∀ j call, l.status? j ≠ some (.working call)) (hi : l.status? i = some (.queued r))
    (hplan : l.session.plan setup r = .invoke call events)
    (hlength : next.calls.length = l.calls.length) (hsession : next.session = l.session)
    (hstatus : ∀ j, next.status? j = if j = i then some (.working call) else l.status? j) :
    InTurn setup outcome requests (taken ++ [i]) next done := by
  obtain ⟨hr, hnew⟩ := ht.queued i r hi
  have hdone : i ∉ done := ht.notMem_done hi nofun
  have hself : next.status? i = some (.working call) := by rw [hstatus, if_pos rfl]
  refine ⟨hlength.trans ht.length, fun j r' hj => ?_, fun j call' hj => ?_, fun h => ?_,
    fun j => ?_, ?_, hsession.trans ht.session, ?_⟩
  · rw [hstatus] at hj
    split at hj
    · cases hj
    · next hji =>
      obtain ⟨hr', htaken⟩ := ht.queued j r' hj
      exact ⟨hr', by simp [htaken, hji]⟩
  · rw [hstatus] at hj
    split at hj
    · next hji =>
      cases hj
      rw [hji, ht.idle hidle, hsession]
      exact ⟨rfl, r, events, hr, hplan⟩
    · exact absurd hj (hidle j call')
  · exact absurd hself (h i call)
  · rw [hstatus]
    split
    · next hji => simp [hji, hdone]
    · exact ht.ended j
  · simpa using ht.nodup.concat hnew
  · rw [← ht.results]
    refine results_congr fun j hj => ?_
    rw [hstatus, if_neg fun hji : j = i => hdone (hji ▸ hj)]

/-- The call that holds the session gets its result, as it does in the sequence. -/
theorem finish {r : Request β} {result : Except SessionError (Response π)}
    (hothers : ∀ j call, l.status? j = some (.working call) → j = i)
    (hr : requests[i]? = some r) (hdone : i ∉ done)
    (hlength : next.calls.length = l.calls.length)
    (hsession : next.session = (l.session.step setup r (outcome i)).session)
    (hresult : result = (l.session.step setup r (outcome i)).result)
    (hstatus : ∀ j, next.status? j = if j = i then some (.ended result) else l.status? j) :
    InTurn setup outcome requests (done ++ [i]) next (done ++ [i]) := by
  have hself : next.status? i = some (.ended result) := by rw [hstatus, if_pos rfl]
  have hseq := sequence_concat hr outcome done
  refine ⟨hlength.trans ht.length, fun j r' hj => ?_, fun j call hj => ?_, fun _ => rfl,
    fun j => ?_, by simpa using ht.done_nodup.concat hdone, ?_, ?_⟩
  · rw [hstatus] at hj
    split at hj
    · cases hj
    · next hji =>
      have hout := ht.notMem_done hj nofun
      exact ⟨(ht.queued j r' hj).1, by simp [hout, hji]⟩
  · rw [hstatus] at hj
    split at hj
    · cases hj
    · next hji => exact absurd (hothers j call hj) hji
  · rw [hstatus, List.mem_append, List.mem_singleton]
    split
    · next hji => simp [hji]
    · next hji => simp [hji, ht.ended]
  · rw [hseq, Session.after_concat, ← ht.session, hsession]
  · have hbefore : done.map next.result? = done.map l.result? :=
      results_congr fun j hj => by rw [hstatus, if_neg fun hji : j = i => hdone (hji ▸ hj)]
    rw [hseq, Session.run_concat, List.map_append, List.map_append, hbefore, ht.results,
      ← ht.session]
    simp [result?_eq_some_iff.mpr hself, hresult]

theorem answer {r : Request β} {planned : Outcome β π}
    (hidle : ∀ j call, l.status? j ≠ some (.working call)) (hp : l.phase? i = some (.waiting r))
    (hplan : l.session.plan setup r = .answer planned) (hk : k.calls = l.calls)
    (hsession : k.session = planned.session) :
    InTurn setup outcome requests (taken ++ [i]) (k.withPhase i (.served planned.result))
      (done ++ [i]) := by
  have hi := status?_of_phase? hp
  have hstep := Session.step_of_answer hplan (outcome i)
  rw [ht.idle hidle]
  refine ht.finish (fun j call hj => absurd hj (hidle j call)) (ht.queued i r hi).1
    (ht.notMem_done hi nofun) ?_ ?_ ?_ (status?_withPhase hk hp _)
  · rw [length_withPhase, hk]
  · rw [hstep, session_withPhase, hsession]
  · rw [hstep]

theorem reply {call : Invocation β}
    (hothers : ∀ j call, l.status? j = some (.working call) → j = i)
    (hp : l.phase? i = some (.inHandler call)) (hk : k.calls = l.calls)
    (hsession : k.session = (l.session.finish setup call (outcome i)).session) :
    InTurn setup outcome requests taken
      (k.withPhase i (.served (l.session.finish setup call (outcome i)).result))
      (done ++ [i]) := by
  have hi := status?_of_phase? hp
  obtain ⟨htaken, r, planned, hr, hplan⟩ := ht.working i call hi
  have hstep := Session.step_of_invoke hplan (outcome i)
  rw [htaken]
  refine ht.finish hothers hr (ht.notMem_done hi nofun) ?_ ?_ ?_ (status?_withPhase hk hp _)
  · rw [length_withPhase, hk]
  · rw [hstep, session_withPhase, hsession]
  · rw [hstep]

end InTurn

omit [DecidableEq β] in
theorem arrivals_concat (moves : List (Move β π)) (m : Move β π) :
    arrivals (moves ++ [m]) = arrivals moves ++ m.request?.toList := by
  rw [arrivals, List.filterMap_append]
  cases h : m.request? <;> simp [h, arrivals]

omit [DecidableEq β] in
theorem turns_concat (moves : List (Move β π)) (m : Move β π) :
    Line.turns (moves ++ [m]) = Line.turns moves ++ m.taker?.toList := by
  rw [Line.turns, List.filterMap_append]
  cases h : m.taker? <;> simp [h, Line.turns]

/-- **Every move keeps the calls in turn.** -/
theorem InTurn.moved {m : Move β π} {events : List Event}
    (ht : InTurn setup outcome requests taken l done) (hx : l.Exclusive)
    (houtcome : ∀ i reply, m = .reply i reply → outcome i = reply)
    (hm : Moved setup l m next events) :
    ∃ done', InTurn setup outcome (requests ++ m.request?.toList) (taken ++ m.taker?.toList) next
      done' := by
  -- nobody is in the handler while the session is free
  have hidle (hh : l.holder = none) (j : Nat) (call : Invocation β) :
      l.status? j ≠ some (.working call) := fun hj => by
    have := hx.holder_of_working hj
    rw [hh] at this
    cases this
  have hquiet {k : Line β π} (h : InTurn setup outcome requests taken k done) :
      ∃ done', InTurn setup outcome (requests ++ []) (taken ++ []) k done' := by
    rw [List.append_nil, List.append_nil]
    exact ⟨done, h⟩
  cases hm with
  | arrived r =>
    simp only [Move.request?, Move.taker?, Option.toList_some, Option.toList_none, List.append_nil]
    exact ⟨done, ht.arrive r⟩
  | answered i r planned hp hh hplan =>
    simp only [Move.request?, Move.taker?, Option.toList_some, Option.toList_none, List.append_nil]
    exact ⟨done ++ [i], ht.answer (hidle hh) hp hplan rfl rfl⟩
  | invoked i r call planned hp hh hplan =>
    simp only [Move.request?, Move.taker?, Option.toList_some, Option.toList_none, List.append_nil]
    exact ⟨done, ht.invoke (hidle hh) (status?_of_phase? hp) hplan (length_withPhase ..) rfl
      (status?_withPhase rfl hp _)⟩
  | replied i call reply hp =>
    have hothers (j : Nat) (call' : Invocation β) (hj : l.status? j = some (.working call')) :
        j = i := by
      have hholder := hx.holder_of_working hj
      rw [hx.holder_of_working (status?_of_phase? hp)] at hholder
      exact (Option.some_inj.mp hholder).symm
    simp only [Move.request?, Move.taker?, Option.toList_none, List.append_nil]
    rw [← houtcome i reply rfl]
    exact ⟨done ++ [i], ht.reply hothers hp rfl rfl⟩
  | found i r replaced hp hold => exact hquiet (ht.advance rfl rfl hp rfl)
  | preempted i r old hp hold => exact hquiet (ht.advance rfl rfl hp rfl)
  | gone i result hp => exact hquiet (ht.advance rfl rfl hp rfl)
  | released i token result hc =>
    exact hquiet (ht.advance rfl rfl (phase?_of_call hc) rfl)
  | cancelled => exact hquiet ht.cancelInFlight
  | destroyed => exact hquiet (ht.cancelInFlight.frame rfl rfl fun _ => rfl)

theorem InTurn.filter_eq (ht : InTurn setup outcome requests taken l done) :
    (taken.filter fun i => (l.result? i).isSome) = done := by
  have hdone : (done.filter fun i => (l.result? i).isSome) = done := by
    refine List.filter_eq_self.mpr fun i hi => ?_
    obtain ⟨result, hresult⟩ := (ht.ended i).mp hi
    rw [result?_eq_some_iff.mpr hresult]
    rfl
  rcases ht.taken_cases with htaken | ⟨i, call, hi, htaken⟩
  · rw [htaken, hdone]
  · have hnone : l.result? i = none := by
      rw [result?, hi]
      rfl
    rw [htaken, List.filter_append, hdone]
    simp [hnone]

/-! ### Runs -/

theorem Moved.ended {m : Move β π} {events : List Event} (hm : Moved setup l m next events)
    {result : Except SessionError (Response π)} (h : l.status? i = some (.ended result)) :
    next.status? i = some (.ended result) := by
  have hadvance {k : Line β π} {j : Nat} {old new : Phase β π} (hk : k.calls = l.calls)
      (hp : l.phase? j = some old)
      (hstatus : old.status = .ended result → new.status = .ended result) :
      (k.withPhase j new).status? i = some (.ended result) := by
    rw [status?_withPhase hk hp]
    split
    · next hij =>
      rw [hij, status?_of_phase? hp] at h
      rw [hstatus (Option.some_inj.mp h)]
    · exact h
  cases hm with
  | arrived r =>
    obtain ⟨p, hp, -⟩ := Option.map_eq_some_iff.mp h
    rw [status?_arrive, if_neg (Nat.ne_of_lt (phase?_lt hp))]
    exact h
  | found i r replaced hp hold => exact hadvance rfl hp nofun
  | preempted i r old hp hold => exact hadvance rfl hp nofun
  | answered i r planned hp hh hplan => exact hadvance rfl hp nofun
  | invoked i r call planned hp hh hplan => exact hadvance rfl hp nofun
  | replied i call reply hp => exact hadvance rfl hp nofun
  | gone i result hp => exact hadvance rfl hp id
  | released i token result hc => exact hadvance rfl (phase?_of_call hc) id
  | cancelled =>
    rw [cancelInFlight_eq]
    exact h
  | destroyed =>
    rw [destroy, cancelInFlight_eq]
    exact h

/-- Only taking the session and the end of a handler change it. -/
theorem Moved.session_eq {m : Move β π} {events : List Event} (hm : Moved setup l m next events)
    (hacquire : ∀ i, m ≠ .acquire i) (hreply : ∀ i reply, m ≠ .reply i reply) :
    next.session = l.session := by
  cases hm with
  | answered i r planned hp hh hplan => exact absurd rfl (hacquire i)
  | invoked i r call planned hp hh hplan => exact absurd rfl (hacquire i)
  | replied i call reply hp => exact absurd rfl (hreply i reply)
  | cancelled => rw [cancelInFlight_eq]
  | destroyed => rw [destroy, cancelInFlight_eq]
  | _ => rfl

/-- A handler that was asked gives one reply: it has a result afterwards, and is not asked again. -/
theorem Run.given_eq {moves : List (Move β π)} {events : List Event}
    (hrun : Run setup moves l events) {reply : Reply π} (h : .reply i reply ∈ moves) :
    given moves i = some reply ∧ ∃ result, l.status? i = some (.ended result) := by
  induction hrun generalizing reply with
  | start => cases h
  | @concat moves l next events new m hrun hmove ih =>
    have hm := moved_of_move? hmove
    rw [given, List.findSome?_append]
    rcases List.mem_append.mp h with h | h
    · obtain ⟨hgiven, result, hresult⟩ := ih h
      rw [given] at hgiven
      exact ⟨by rw [hgiven, Option.some_or], result, hm.ended hresult⟩
    · cases List.mem_singleton.mp h
      cases hm with
      | replied i call reply hp =>
        have hfirst (earlier : Reply π) : .reply i earlier ∉ moves := fun hmem => by
          obtain ⟨-, result, hresult⟩ := ih hmem
          rw [status?_of_phase? hp] at hresult
          cases hresult
        have hnone : moves.findSome? (Move.replyTo? i) = none := by
          refine List.findSome?_eq_none_iff.mpr fun m hmem => ?_
          cases m with
          | reply j earlier =>
            rw [Move.replyTo?, ite_eq_right_iff]
            rintro rfl
            exact absurd hmem (hfirst earlier)
          | _ => rfl
        exact ⟨by simp [hnone, Move.replyTo?], _, status?_reply hp setup call reply⟩

theorem Run.inTurn {moves : List (Move β π)} {events : List Event}
    (hrun : Run setup moves l events)
    (houtcome : ∀ i reply, .reply i reply ∈ moves → outcome i = reply) :
    ∃ done, InTurn setup outcome (arrivals moves) (turns moves) l done := by
  induction hrun with
  | start => exact ⟨[], inTurn_start⟩
  | concat hrun hmove ih =>
    obtain ⟨done, ht⟩ := ih fun i reply h => houtcome i reply (List.mem_append_left _ h)
    rw [arrivals_concat, turns_concat]
    exact ht.moved hrun.exclusive
      (fun i reply h => houtcome i reply (List.mem_append_right _ (h ▸ List.mem_singleton_self _)))
      (moved_of_move? hmove)

end Line

/-- **Overlapping calls are linear.** After any moves of any number of calls, with each handler that
was asked ending as `outcome` says:
at most one call is in the handler;
the session is what the calls with a result make of a new one, one after another in the order in
which they took it, and their results are those that they have there;
no call takes the session twice, every call with a result took it, and so did the one in the
handler, after all of them; that one was planned on the session that they left;
only the call that takes the session and the one whose handler ends change it, so cancelling does
not;
and a response for the call in the handler, cancelled or not, is taken into the buffer at the next
position. -/
theorem overlapping_calls_linearized [DecidableEq β] (setup : Setup)
    (moves : List (Line.Move β π)) (l : Line β π) (events : List Event)
    (h : (Line.start : Line β π).moves? setup moves = some (l, events)) (outcome : Nat → Reply π)
    (houtcome : ∀ i reply, Line.given moves i = some reply → outcome i = reply) :
    let done := Line.finished moves l
    let calls := Line.sequence (Line.arrivals moves) outcome done
    (∀ i j call call', l.phase? i = some (.inHandler call) → l.phase? j = some (.inHandler call') →
        i = j) ∧
      (l.session = Session.start.after setup calls ∧
        done.map l.result? = (Session.start.run setup calls).map (some ·.result)) ∧
      ((Line.turns moves).Nodup ∧ (∀ i, (l.result? i).isSome = true ↔ i ∈ done) ∧
        ∀ i call, l.phase? i = some (.inHandler call) → Line.turns moves = done ++ [i] ∧
          ∃ r planned, (Line.arrivals moves)[i]? = some r ∧
            (Session.start.after setup calls).plan setup r = .invoke call planned) ∧
      (∀ m l' new, l.move? setup m = some (l', new) → (∀ i, m ≠ .acquire i) →
        (∀ i reply, m ≠ .reply i reply) → l'.session = l.session) ∧
      (∀ i call response, l.phase? i = some (.inHandler call) →
        ∃ l' new head, l.move? setup (.reply i (.respond response)) = some (l', new) ∧
          l'.result? i = some (.ok head) ∧
          call.position.val = l.session.lastPosition.val + 1 ∧
          l'.session.lastPosition = call.position ∧
          l'.session.lastRequest? = some call.request ∧
          { response with position := call.position, txnId := call.request.txnId }
            ∈ l'.session.buffer.responses) := by
  intro done calls
  have hrun := Line.run_of_moves? h
  have hx := hrun.exclusive
  obtain ⟨done', ht⟩ := hrun.inTurn fun i reply hmem => houtcome i reply (hrun.given_eq hmem).1
  obtain rfl : done = done' := ht.filter_eq
  refine ⟨fun i j call call' hi hj => ?_, ⟨ht.session, ht.results⟩,
    ⟨ht.nodup, fun i => ?_, fun i call hi => ?_⟩, fun m l' new hmove hacquire hreply => ?_,
    fun i call response hi => ?_⟩
  · have hholder := (hx i _ hi rfl).symm.trans (hx j _ hj rfl)
    exact Option.some_inj.mp hholder
  · rw [Option.isSome_iff_exists, ht.ended]
    exact exists_congr fun _ => Line.result?_eq_some_iff
  · rw [← ht.session]
    exact ht.working i call (Line.status?_of_phase? hi)
  · exact (Line.moved_of_move? hmove).session_eq hacquire hreply
  · obtain ⟨-, r, planned, -, hplan⟩ := ht.working i call (Line.status?_of_phase? hi)
    have t : l.session.Tracks (Session.start.history setup calls) :=
      ht.session ▸ Session.tracks_after setup calls
    obtain ⟨hposition, ⟨head, hhead⟩, hlast, hrequest, hbuffer⟩ :=
      t.finish_respond hplan response
    refine ⟨(l.reply setup i call (.respond response)).1,
      (l.reply setup i call (.respond response)).2, head, by simp only [Line.move?, hi], ?_,
      hposition, hlast, hrequest, hbuffer⟩
    rw [Line.result?_eq_some_iff, Line.status?_reply hi, hhead]

/-- The first call is in the handler when the second one arrives, preempts it, and waits; its
response comes late, and is the first of the session all the same. -/
theorem overlapping_calls_linearized_of_preempted :
    let first : Request Nat := .fresh .initial 1
    let second : Request Nat := .fresh .initial 2
    let moves : List (Line.Move Nat Nat) :=
      [.arrive first, .preempt 0, .acquire 0, .arrive second, .preempt 1, .cancelInFlight,
        .reply 0 (.respond (.fresh 10)), .leave 0, .acquire 1, .reply 1 (.respond (.fresh 20))]
    let outcome : Nat → Reply Nat := fun i => .respond (.fresh (if i = 0 then 10 else 20))
    ∃ l events, (Line.start : Line Nat Nat).moves? default moves = some (l, events) ∧
      (∀ i reply, Line.given moves i = some reply → outcome i = reply) ∧
      Line.finished moves l = [0, 1] ∧ l.isCancelled 0 = true ∧ l.session.lastPosition.val = 2 ∧
      l.session = Session.start.after default [(first, outcome 0), (second, outcome 1)] := by
  intro first second moves outcome
  have hrun : ((Line.start : Line Nat Nat).moves? default moves).map (fun (l, _) =>
      (Line.finished moves l, l.isCancelled 0, l.session.lastPosition.val))
        = some ([0, 1], true, 2) := by
    decide +kernel
  have houtcome (i : Nat) (reply : Reply Nat) (h : Line.given moves i = some reply) :
      outcome i = reply := by
    match i, h with
    | 0, h => exact Option.some_inj.mp h
    | 1, h => exact Option.some_inj.mp h
    | n + 2, h => simp [Line.given, moves, List.findSome?_cons, Line.Move.replyTo?] at h
  obtain ⟨⟨l, events⟩, h, hfacts⟩ := Option.map_eq_some_iff.mp hrun
  simp only [Prod.mk.injEq] at hfacts
  obtain ⟨hfinished, hcancelled, hlast⟩ := hfacts
  obtain ⟨-, ⟨hsession, -⟩, -⟩ :=
    overlapping_calls_linearized default moves l events h outcome houtcome
  rw [hfinished] at hsession
  exact ⟨l, events, h, houtcome, hfinished, hcancelled, hlast, hsession⟩

end LongPoll
