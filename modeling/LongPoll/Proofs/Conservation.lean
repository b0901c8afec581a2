/-
# What an observer can add up

Whoever counts the events of a session from its start can check it: each request ended once, each
end has one cause, each call of the handler moved the last position or failed, and each response is
still buffered or was counted as acknowledged, once. The events of any calls agree in this way with
their results, the handler's replies, and what was produced and acknowledged (`Balanced`): one call
does (`Course.balanced`), and such accounts add up (`Balanced.append`). So it is with calls that
overlap, though the events of a call come in two parts then, with others between them: what is told
of a request before it is processed is told of no end, and changes none of the numbers.

Key definitions: `Event.Kind`, `Event.count`, `Event.ackedIn`, `Balanced`, `Session.acked`,
`Line.results`, `Session.Conserves`.
Key theorems: `Balanced.append`, `Balanced.silent_append_iff`, `Course.balanced`,
`Session.Tracks.balanced_append`, `Session.Tracks.balanced_run`, `Line.Moved.balanced`,
`Line.Run.balanced`, `Playback.Stage.Follows.balanced`, `events_conserved`.
-/
import LongPoll.Proofs.Capacity
import LongPoll.Proofs.EventTrace
import LongPoll.Proofs.Played

namespace LongPoll

open History

variable {β π : Type}

/-! ### Counting events -/

namespace Event

/-- What an event tells, less its details. -/
inductive Kind
  | unknownPosition
  | replayed
  | bodyChanged
  | timeoutShrunk
  | bufferFull
  | preempted
  | handlerFailed
  | handlerPanicked
  | finished
deriving DecidableEq

/-- The kind says how a request is taken, and nothing of how it ends. -/
def Kind.isNotice : Kind → Bool
  | bodyChanged | timeoutShrunk | preempted => true
  | unknownPosition | replayed | bufferFull | handlerFailed | handlerPanicked | finished => false

def kind : Event → Kind
  | unknownPosition _ => .unknownPosition
  | replayed _ _ => .replayed
  | bodyChanged _ => .bodyChanged
  | timeoutShrunk _ _ => .timeoutShrunk
  | bufferFull _ => .bufferFull
  | preempted => .preempted
  | handlerFailed _ _ => .handlerFailed
  | handlerPanicked _ => .handlerPanicked
  | finished _ => .finished

def count (k : Kind) (events : List Event) : Nat := events.countP fun event => event.kind = k

/-- How many responses the event counts as acknowledged. -/
def acked : Event → Nat
  | finished finish => finish.acked
  | _ => 0

def ackedIn : List Event → Nat
  | [] => 0
  | event :: events => event.acked + ackedIn events

theorem count_append (k : Kind) (events more : List Event) :
    count k (events ++ more) = count k events + count k more :=
  List.countP_append

theorem ackedIn_append (events more : List Event) :
    ackedIn (events ++ more) = ackedIn events + ackedIn more := by
  induction events with
  | nil => exact (Nat.zero_add _).symm
  | cons event events ih => rw [List.cons_append, ackedIn, ackedIn, ih, Nat.add_assoc]

/-- Nothing is told of an end. -/
def Silent (events : List Event) : Prop := ∀ event ∈ events, event.kind.isNotice = true

namespace Silent

variable {events : List Event} (hq : Silent events)

include hq

theorem count_eq_zero {k : Kind} (hk : k.isNotice = false) : count k events = 0 := by
  refine List.countP_eq_zero.mpr fun event hmem hkind => ?_
  have hnotice := hq event hmem
  rw [of_decide_eq_true hkind, hk] at hnotice
  cases hnotice

theorem ackedIn_eq_zero : ackedIn events = 0 := by
  induction events with
  | nil => rfl
  | cons event events ih =>
    obtain ⟨hnotice, hrest⟩ := List.forall_mem_cons.mp hq
    have h0 : event.acked = 0 := by
      cases event with
      | finished finish => cases hnotice
      | _ => rfl
    rw [ackedIn, h0, ih hrest]

end Silent
end Event

open Event

theorem Session.silent_notices (setup : Setup) (s : Session β π) (standing : Standing)
    (r : Request β) : Silent (s.notices setup standing r) := by
  intro event hmem
  rcases eq_of_mem_notices hmem with rfl | ⟨asked, rfl⟩ <;> rfl

/-! ### Accounts -/

def SessionError.isOverflow : SessionError → Bool
  | positionOverflow _ => true
  | unknownPosition _ | bufferFull _ | handler _ | handlerPanicked _ | outOfOrder _ _ => false

/-- The call failed for want of a position. -/
def overflowed : Except SessionError (Response π) → Bool
  | .ok _ => false
  | .error error => error.isOverflow

/-- The events of some calls agree with their results, with what the handler replied, and with how
many responses were produced and how many acknowledged. -/
structure Balanced (events : List Event) (results : List (Except SessionError (Response π)))
    (replies : List (Reply π)) (produced acknowledged : Nat) : Prop where
  /-- Every call is told to end once. -/
  requests : results.length = count .unknownPosition events + count .finished events
  /-- Every call that finished did so for one reason. -/
  finished : count .finished events = count .replayed events + count .bufferFull events +
    replies.length + results.countP overflowed
  /-- Whenever the handler was asked, there is a response, or its failure is told. -/
  invoked :
    replies.length = produced + count .handlerFailed events + count .handlerPanicked events
  succeeded : replies.countP Reply.succeeded = produced
  acked : ackedIn events = acknowledged

namespace Balanced

variable {events more : List Event} {results results' : List (Except SessionError (Response π))}
  {replies replies' : List (Reply π)} {produced produced' acknowledged acknowledged' : Nat}

theorem nil : Balanced ([] : List Event) ([] : List (Except SessionError (Response π))) [] 0 0 :=
  ⟨rfl, rfl, rfl, rfl, rfl⟩

theorem append (hb : Balanced events results replies produced acknowledged)
    (hb' : Balanced more results' replies' produced' acknowledged') :
    Balanced (events ++ more) (results ++ results') (replies ++ replies') (produced + produced')
      (acknowledged + acknowledged') where
  requests := by
    rw [List.length_append, hb.requests, hb'.requests, count_append, count_append]
    omega
  finished := by
    rw [count_append, hb.finished, hb'.finished, count_append, count_append, List.length_append,
      List.countP_append]
    omega
  invoked := by
    rw [List.length_append, hb.invoked, hb'.invoked, count_append, count_append]
    omega
  succeeded := by rw [List.countP_append, hb.succeeded, hb'.succeeded]
  acked := by rw [ackedIn_append, hb.acked, hb'.acked]

theorem silent_append_iff (hq : Silent events) :
    Balanced (events ++ more) results replies produced acknowledged ↔
      Balanced more results replies produced acknowledged := by
  have hcount {k : Kind} (hk : k.isNotice = false) :
      count k (events ++ more) = count k more := by
    rw [count_append, hq.count_eq_zero hk, Nat.zero_add]
  have hacked : ackedIn (events ++ more) = ackedIn more := by
    rw [ackedIn_append, hq.ackedIn_eq_zero, Nat.zero_add]
  constructor
  · rintro ⟨hrequests, hfinished, hinvoked, hsucceeded, htotal⟩
    rw [hcount rfl, hcount rfl] at hrequests hinvoked
    rw [hcount rfl, hcount rfl, hcount rfl] at hfinished
    exact ⟨hrequests, hfinished, hinvoked, hsucceeded, hacked ▸ htotal⟩
  · rintro ⟨hrequests, hfinished, hinvoked, hsucceeded, htotal⟩
    refine ⟨?_, ?_, ?_, hsucceeded, hacked.trans htotal⟩
    · rw [hcount rfl, hcount rfl, hrequests]
    · rw [hcount rfl, hcount rfl, hcount rfl, hfinished]
    · rw [hcount rfl, hcount rfl, hinvoked]

theorem of_silent (hq : Silent events) :
    Balanced events ([] : List (Except SessionError (Response π))) [] 0 0 := by
  have hnil := (silent_append_iff hq).mpr (nil (π := π))
  rwa [List.append_nil] at hnil

theorem perm (hb : Balanced events results replies produced acknowledged)
    (hp : results.Perm results') : Balanced events results' replies produced acknowledged where
  requests := hp.length_eq ▸ hb.requests
  finished := by rw [← hp.countP_eq]; exact hb.finished
  invoked := hb.invoked
  succeeded := hb.succeeded
  acked := hb.acked

end Balanced

/-! ### One call -/

def Exchange.replies (e : Exchange β π) : List (Reply π) := e.asked.map fun _ => e.reply

/-- **Every call balances.** -/
theorem Course.balanced [DecidableEq β] {setup : Setup} {s : Session β π} {h : History β π}
    {e : Exchange β π} (hcourse : Course setup s h e) :
    Balanced e.outcome.events [e.outcome.result] e.replies e.produced.length (e.dropped s) := by
  have hq := s.silent_notices setup (s.standing e.request) e.request
  -- the last event counts what the call dropped, and one before it counts nothing
  have hlast : ackedIn [e.finish setup s] = e.dropped s := rfl
  have hbefore {event : Event} (h0 : event.acked = 0) :
      ackedIn [event, e.finish setup s] = e.dropped s := by
    rw [ackedIn, h0, Nat.zero_add, hlast]
  cases hcourse with
  | unknown hk ha hr hev =>
    rw [hev, hr, Exchange.replies, ha, Exchange.produced_of_asked_nil ha,
      Exchange.dropped_of_error hr]
    exact ⟨rfl, rfl, rfl, rfl, rfl⟩
  | replayed head hk ho ha hr hev =>
    rw [hev, hr, Exchange.replies, ha, Exchange.produced_of_asked_nil ha]
    exact ⟨rfl, rfl, rfl, rfl, hbefore rfl⟩
  | full limit hk hm ha hr hev =>
    rw [hev, hr, Exchange.replies, ha, Exchange.produced_of_asked_nil ha,
      Balanced.silent_append_iff hq]
    exact ⟨rfl, rfl, rfl, rfl, hbefore rfl⟩
  | exhausted last hk hn ha hr hev =>
    rw [hev, hr, Exchange.replies, ha, Exchange.produced_of_asked_nil ha,
      Balanced.silent_append_iff hq]
    exact ⟨rfl, rfl, rfl, rfl, hlast⟩
  | responded call response head hk ha hreply hr hev =>
    rw [hev, hr, Exchange.replies, Exchange.produced, ha, hreply, Balanced.silent_append_iff hq]
    exact ⟨rfl, rfl, rfl, rfl, hlast⟩
  | failed call fault error hk ha hreply hr hev =>
    rw [hev, hr, Exchange.replies, Exchange.produced, ha, hreply, Balanced.silent_append_iff hq]
    exact ⟨rfl, rfl, rfl, rfl, hbefore rfl⟩
  | panicked call payload hk ha hreply hr hev =>
    rw [hev, hr, Exchange.replies, Exchange.produced, ha, hreply, Balanced.silent_append_iff hq]
    exact ⟨rfl, rfl, rfl, rfl, hbefore rfl⟩

/-! ### Calls one after another -/

/-- How many responses are no longer buffered. -/
def Session.acked (s : Session β π) : Nat := s.lastPosition.val - s.buffer.size

namespace Session.Tracks

variable {s : Session β π} {h : History β π} (t : s.Tracks h)

include t

theorem size_le : s.buffer.size ≤ s.lastPosition.val := by
  rw [t.size_eq, t.lastPosition]
  exact Nat.sub_le _ _

theorem acked_eq : s.acked = History.acked h := by
  have hle : History.acked h ≤ newest h := t.acked_le
  rw [Session.acked, t.size_eq, t.lastPosition]
  omega

variable [DecidableEq β] (setup : Setup)
  {events : List Event} {results : List (Except SessionError (Response π))}
  {replies : List (Reply π)}

/-- One more call keeps the balance of the calls before it, if what is told of it balances. -/
theorem balanced_append (hb : Balanced events results replies s.lastPosition.val s.acked)
    (r : Request β) (reply : Reply π) {told : List Event} :
    let e := s.exchange setup r reply
    Balanced told [e.outcome.result] e.replies e.produced.length (e.dropped s) →
      Balanced (events ++ told) (results ++ [e.outcome.result]) (replies ++ e.replies)
        e.outcome.session.lastPosition.val e.outcome.session.acked := by
  intro e hcall
  have hend : Ending s h e := t.ending setup r reply
  have hnext : e.outcome.session.Tracks (h ++ [e]) := t.concat hend
  have hproduced : e.outcome.session.lastPosition.val =
      s.lastPosition.val + e.produced.length := by
    rw [hnext.lastPosition, t.lastPosition, newest_concat]
  have hacked : e.outcome.session.acked = s.acked + e.dropped s := by
    rw [hnext.acked_eq, t.acked_eq, hend.acked_concat t]
  rw [hproduced, hacked]
  exact hb.append hcall

/-- **Calls one after another** keep the balance. -/
theorem balanced_run (hb : Balanced events results replies s.lastPosition.val s.acked)
    (calls : List (Request β × Reply π)) :
    let made := s.history setup calls
    Balanced (events ++ made.flatMap (·.outcome.events)) (results ++ made.map (·.outcome.result))
      (replies ++ made.flatMap Exchange.replies) (s.after setup calls).lastPosition.val
      (s.after setup calls).acked := by
  induction calls generalizing s h events results replies with
  | nil => simpa [history, Session.after] using hb
  | cons call rest ih =>
    obtain ⟨r, reply⟩ := call
    have hnext := t.concat (t.ending setup r reply)
    have hcall := t.balanced_append setup hb r reply (t.course setup r reply).balanced
    have hrest := ih hnext hcall
    simp only [List.append_assoc, exchange_outcome] at hrest
    simp only [history_cons, List.flatMap_cons, List.map_cons, exchange_outcome]
    exact hrest

variable {setup} {r : Request β}

theorem balanced_answer (hb : Balanced events results replies s.lastPosition.val s.acked)
    {outcome : Outcome β π} (hplan : s.plan setup r = .answer outcome) :
    Balanced (events ++ outcome.events) (results ++ [outcome.result]) replies
      outcome.session.lastPosition.val outcome.session.acked := by
  have hcall := t.balanced_append setup hb r (.panic .other) (t.course setup r _).balanced
  rwa [exchange_of_answer hplan, Exchange.replies, List.map_nil, List.append_nil] at hcall

variable {call : Invocation β} {planned : List Event}

theorem silent_of_invoke (hplan : s.plan setup r = .invoke call planned) : Silent planned := by
  have hv := t.verdict setup r
  rw [hplan] at hv
  cases hv with
  | invoked position hk ho hf hpos => exact s.silent_notices setup (s.standing r) r

/-- The end of a call in the handler keeps the balance, whatever was told of the call before. -/
theorem balanced_finish (hb : Balanced events results replies s.lastPosition.val s.acked)
    (hplan : s.plan setup r = .invoke call planned) (reply : Reply π) :
    let outcome := s.finish setup call reply
    Balanced (events ++ outcome.events) (results ++ [outcome.result]) (replies ++ [reply])
      outcome.session.lastPosition.val outcome.session.acked := by
  intro outcome
  have htold := (t.course setup r reply).balanced
  rw [exchange_of_invoke hplan, Balanced.silent_append_iff (t.silent_of_invoke hplan)] at htold
  have hcall := t.balanced_append setup hb r reply (by rwa [exchange_of_invoke hplan])
  rwa [exchange_of_invoke hplan] at hcall

end Session.Tracks

/-! ### Overlapping calls -/

namespace Line

/-- The results that the calls have so far. -/
def results (l : Line β π) : List (Except SessionError (Response π)) :=
  l.calls.filterMap fun call => call.phase.status.result?

variable {l k next : Line β π} {i : Nat} {old new : Phase β π}

theorem results_arrive (l : Line β π) (r : Request β) : (l.arrive r).results = l.results := by
  simp only [results, arrive, List.filterMap_append]
  exact List.append_nil _

theorem calls_withPhase (hk : k.calls = l.calls) (hp : l.phase? i = some old) (new : Phase β π) :
    ∃ before token after, l.calls = before ++ ⟨token, old⟩ :: after ∧
      (k.withPhase i new).calls = before ++ ⟨token, new⟩ :: after := by
  obtain ⟨before, call, after, hcalls, hlength, hmodify⟩ :=
    List.exists_of_modify (fun call : Call β π => { call with phase := new }) (phase?_lt hp)
  have hcall : l.calls[i]? = some call := by
    rw [hcalls, ← hlength, List.getElem?_append_right (Nat.le_refl _), Nat.sub_self]
    rfl
  rw [phase?_of_call hcall] at hp
  obtain rfl : call.phase = old := Option.some_inj.mp hp
  exact ⟨before, call.token, after, hcalls, by rw [withPhase, hk, hmodify]⟩

theorem results_withPhase (hk : k.calls = l.calls) (hp : l.phase? i = some old)
    (hsame : new.status.result? = old.status.result?) :
    (k.withPhase i new).results = l.results := by
  obtain ⟨before, token, after, hbefore, hafter⟩ := calls_withPhase hk hp new
  simp only [results, hbefore, hafter, List.filterMap_append, List.filterMap_cons, hsame]

theorem results_withPhase_perm {result : Except SessionError (Response π)}
    (hk : k.calls = l.calls) (hp : l.phase? i = some old) (hold : old.status.result? = none)
    (hnew : new.status.result? = some result) :
    (l.results ++ [result]).Perm (k.withPhase i new).results := by
  obtain ⟨before, token, after, hbefore, hafter⟩ := calls_withPhase hk hp new
  simp only [results, hbefore, hafter, List.filterMap_append, List.filterMap_cons, hold, hnew]
  rw [List.append_assoc]
  exact (List.perm_append_singleton _ _).append_left _

variable [DecidableEq β] {setup : Setup} {m : Move β π} {events new : List Event}
  {given : List (Reply π)}

/-- **Every move keeps the balance**, if the session tracks a history and the call in the handler
was planned on it. -/
theorem Moved.balanced (hm : Moved setup l m next new) {h : History β π} (t : l.session.Tracks h)
    (hworking : ∀ i call, l.status? i = some (.working call) →
      ∃ r planned, l.session.plan setup r = .invoke call planned)
    (hb : Balanced events l.results given l.session.lastPosition.val l.session.acked) :
    Balanced (events ++ new) next.results (given ++ m.reply?.toList)
      next.session.lastPosition.val next.session.acked := by
  -- a move that brings no result and tells of no end
  have hquiet {k : Line β π} {told : List Event} (hq : Silent told)
      (hresults : k.results = l.results) (hsession : k.session = l.session) :
      Balanced (events ++ told) k.results (given ++ []) k.session.lastPosition.val
        k.session.acked := by
    rw [hresults, hsession]
    simpa using hb.append (Balanced.of_silent hq)
  have hnothing : Silent [] := fun event hmem => nomatch hmem
  cases hm with
  | arrived r => exact hquiet hnothing (results_arrive l r) rfl
  | found i r replaced hp hold => exact hquiet hnothing (results_withPhase rfl hp rfl) rfl
  | preempted i r old hp hold =>
    refine hquiet (fun event hmem => ?_) (results_withPhase rfl hp rfl) rfl
    rw [List.mem_singleton.mp hmem]
    rfl
  | answered i r outcome hp hh hplan =>
    have hnone : (Move.acquire i : Move β π).reply?.toList = [] := rfl
    rw [hnone, List.append_nil]
    exact (t.balanced_answer hb hplan).perm (results_withPhase_perm rfl hp rfl rfl)
  | invoked i r call planned hp hh hplan =>
    exact hquiet (t.silent_of_invoke hplan) (results_withPhase rfl hp rfl) rfl
  | replied i call reply hp =>
    obtain ⟨r, planned, hplan⟩ := hworking i call (status?_of_phase? hp)
    exact (t.balanced_finish hb hplan reply).perm (results_withPhase_perm rfl hp rfl rfl)
  | gone i result hp => exact hquiet hnothing (results_withPhase rfl hp rfl) rfl
  | released i token result hc =>
    exact hquiet hnothing (results_withPhase rfl (phase?_of_call hc) rfl) rfl
  | cancelled =>
    rw [cancelInFlight_eq]
    exact hquiet hnothing rfl rfl
  | destroyed =>
    rw [destroy, cancelInFlight_eq]
    exact hquiet hnothing rfl rfl

/-- Every run has its calls in turn: whatever the handlers replied is what they reply. -/
theorem Run.calls_inTurn {moves : List (Move β π)} (hrun : Run setup moves l events) :
    ∃ outcome done, InTurn setup outcome (arrivals moves) (turns moves) l done := by
  refine ⟨fun i => (Line.given moves i).getD (.panic .other), hrun.inTurn fun i reply hmem => ?_⟩
  rw [(hrun.given_eq hmem).1, Option.getD_some]

/-- The session always tracks a history, and the call in the handler was planned on it. -/
theorem Run.tracks {moves : List (Move β π)} (hrun : Run setup moves l events) :
    ∃ h, l.session.Tracks h ∧ ∀ i call, l.status? i = some (.working call) →
      ∃ r planned, l.session.plan setup r = .invoke call planned := by
  obtain ⟨outcome, done, ht⟩ := hrun.calls_inTurn
  have t : l.session.Tracks _ := ht.session ▸ Session.tracks_after setup _
  refine ⟨_, t, fun i call hi => ?_⟩
  obtain ⟨-, r, planned, -, hplan⟩ := ht.working i call hi
  exact ⟨r, planned, hplan⟩

/-- **Overlapping calls keep the balance.** -/
theorem Run.balanced {moves : List (Move β π)} (hrun : Run setup moves l events) :
    Balanced events l.results (replies moves) l.session.lastPosition.val l.session.acked := by
  induction hrun with
  | start => exact .nil
  | concat hrun hmove ih =>
    obtain ⟨h, t, hworking⟩ := hrun.tracks
    rw [replies_concat]
    exact (moved_of_move? hmove).balanced t hworking ih

theorem Run.size_le {moves : List (Move β π)} (hrun : Run setup moves l events) :
    l.session.buffer.size ≤ l.session.lastPosition.val := by
  obtain ⟨h, t, -⟩ := hrun.tracks
  exact t.size_le

theorem Run.results_length {moves : List (Move β π)} (hrun : Run setup moves l events)
    (hclosed : ∀ call ∈ l.calls, ∃ result, call.phase = .closed result) :
    l.results.length = (arrivals moves).length := by
  obtain ⟨outcome, done, ht⟩ := hrun.calls_inTurn
  rw [← ht.length, results, List.length_filterMap_eq_countP, List.countP_eq_length]
  intro call hmem
  obtain ⟨result, hresult⟩ := hclosed call hmem
  rw [hresult]
  rfl

end Line

/-! ### A played connection -/

/-- What a stage has logged balances with what its line and its script hold. -/
theorem Playback.Stage.Follows.balanced {past : List Event} {s : Stage} (hs : Follows past s) :
    ∃ replies : List (Reply String),
      Balanced (past ++ s.log.events) s.line.results replies s.line.session.lastPosition.val
        s.line.session.acked ∧
      replies.length = s.script.callCount ∧
      replies.countP Reply.succeeded = s.script.successCount := by
  obtain ⟨moves, hrun, hcalls⟩ := hs.run
  refine ⟨Line.replies moves, hrun.balanced, ?_, ?_⟩
  · have hlength := congrArg List.length hcalls
    rw [List.length_map, List.length_map, Script.calls, List.length_reverse] at hlength
    exact hlength.symm
  · have hcount := congrArg (List.countP id) hcalls
    rw [List.countP_map, List.countP_map, Script.calls, List.countP_reverse] at hcount
    exact hcount.symm

/-! ### Everything told since the start -/

/-- All that was told of the calls of a session, their results and what the handler replied balance
with what the session holds. -/
structure Session.Conserves (s : Session β π) (events : List Event)
    (results : List (Except SessionError (Response π))) (replies : List (Reply π)) : Prop extends
    Balanced events results replies s.lastPosition.val s.acked where
  size_le : s.buffer.size ≤ s.lastPosition.val

/-- **What is told adds up.** Over all events since the start of a session: there are as many
results as requests of unknown position and finished ones; as many finished ones as were served from
the buffer, found it full, were asked of the handler, or failed for want of a position; the handler
was asked as often as the last position says and as it failed or panicked, and responded just as
often as the last position says; and what was counted as acknowledged, together with what is still
buffered, makes up the last position. This is so after any calls one after another; after any moves
of calls that overlap, and once all of them are over there are as many results as requests; and for
whatever is played to a scripted handler, whose count of successes is the last position. -/
theorem events_conserved [DecidableEq β] (setup : Setup) :
    (∀ calls : List (Request β × Reply π),
      let h := Session.start.history setup calls
      (Session.start.after setup calls).Conserves (h.flatMap (·.outcome.events))
        (h.map (·.outcome.result)) (h.flatMap Exchange.replies)) ∧
      (∀ (moves : List (Line.Move β π)) (l : Line β π) (events : List Event),
        Line.start.moves? setup moves = some (l, events) →
          l.session.Conserves events l.results (Line.replies moves) ∧
            ((∀ call ∈ l.calls, ∃ result, call.phase = .closed result) →
              l.results.length = (Line.arrivals moves).length)) ∧
      ∀ (queue : List Cue) (longPolls : Bool) (plan : List Playback.Step),
        let played :=
          (Playback.Stage.ofScript setup (.ofQueue queue longPolls)).steps 0 plan
        let s := played.2
        s.script.successCount = s.line.session.lastPosition.val ∧
          ∃ replies, s.line.session.Conserves (played.1.flatMap (·.log.events)) s.line.results
            replies ∧ replies.length = s.script.callCount := by
  have hstart : Balanced ([] : List Event) ([] : List (Except SessionError (Response π))) []
      (Session.start : Session β π).lastPosition.val (Session.start : Session β π).acked :=
    .nil
  refine ⟨fun calls => ?_, fun moves l events h => ?_, fun queue longPolls plan => ?_⟩
  · have hrun := Session.tracks_start.balanced_run setup hstart calls
    exact ⟨hrun, (Session.tracks_after setup calls).size_le⟩
  · have hrun := Line.run_of_moves? h
    exact ⟨⟨hrun.balanced, hrun.size_le⟩, hrun.results_length⟩
  · intro played s
    obtain ⟨before, hs, hlogged⟩ :=
      (Playback.Stage.follows_ofScript setup queue longPolls).steps 0 plan
    obtain ⟨replies, hb, hlength, hcount⟩ := hs.balanced
    obtain ⟨moves, hrun, -⟩ := hs.run
    rw [hlogged] at hb
    exact ⟨hcount.symm.trans hb.succeeded, replies, ⟨hb, hrun.size_le⟩, hlength⟩

/-- The first call is preempted and its handler fails. Of the next three one is answered with the
first response, one acknowledges it, and one is the same again and served from the buffer. -/
theorem events_conserved_of_overlapping :
    let moves : List (Line.Move Nat Nat) :=
      [.arrive (.fresh .initial 1), .preempt 0, .acquire 0, .arrive (.fresh .initial 2), .preempt 1,
        .reply 0 (.fail (.plain "late")), .leave 0, .release 0, .acquire 1,
        .reply 1 (.respond (.fresh 10)), .leave 1, .release 1, .arrive (.fresh (.ofNat 1) 3),
        .preempt 2, .acquire 2, .arrive (.fresh (.ofNat 1) 3), .reply 2 (.respond (.fresh 20)),
        .leave 2, .release 2, .preempt 3, .acquire 3, .leave 3, .release 3]
    ∃ l events, (Line.start : Line Nat Nat).moves? default moves = some (l, events) ∧
      (∀ call ∈ l.calls, ∃ result, call.phase = .closed result) ∧
      l.session.Conserves events l.results (Line.replies moves) ∧ l.results.length = 4 ∧
      count .preempted events = 2 ∧ count .finished events = 4 ∧ count .replayed events = 1 ∧
      (Line.replies moves).length = 3 ∧ count .handlerFailed events = 1 ∧ ackedIn events = 1 ∧
      l.session.lastPosition.val = 2 ∧ l.session.buffer.size = 1 := by
  intro moves
  have hrun : ((Line.start : Line Nat Nat).moves? default moves).map (fun (l, events) =>
      (l.calls.all (!·.phase.isOpen),
        [count .preempted events, count .finished events, count .replayed events,
          (Line.replies moves).length, count .handlerFailed events, ackedIn events,
          l.session.lastPosition.val, l.session.buffer.size])) =
      some (true, [2, 4, 1, 3, 1, 1, 2, 1]) := by
    decide +kernel
  obtain ⟨⟨l, events⟩, h, hfacts⟩ := Option.map_eq_some_iff.mp hrun
  simp only [Prod.mk.injEq, List.cons.injEq, and_true] at hfacts
  obtain ⟨hover, hfacts⟩ := hfacts
  have hclosed : ∀ call ∈ l.calls, ∃ result, call.phase = .closed result := by
    intro call hmem
    have hphase := List.all_eq_true.mp hover call hmem
    cases hcall : call.phase with
    | closed result => exact ⟨result, rfl⟩
    | _ =>
      rw [hcall] at hphase
      cases hphase
  obtain ⟨hconserves, hlength⟩ := (events_conserved default).2.1 moves l events h
  exact ⟨l, events, h, hclosed, hconserves, hlength hclosed, hfacts⟩

end LongPoll
