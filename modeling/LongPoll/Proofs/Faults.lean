/-
# A fault on its way from the handler to the device

A handler may fail with any fault, however deep others are nested in it. The session tags it, tells
of it, and fails the call with it; whoever answers the device tags the session's error in turn.
Neither conversion looks into a fault: a handler error is passed on as it is, and anything else gets
one more link in front. So the chain of the fault, from each of its links on, is still there at the
end. Over a run, overlapping calls or not, the failures that are told are those of the faults that
handlers failed with, in this order, and each call that a handler failed has its fault as the
result.

Key definitions: `Fault.source?`, `Fault.chain`, `Fault.report`, `Reply.faults`, `Event.told`.
Key theorems: `Fault.sources_eq`, `Fault.chain_suffix`, `HandlerError.chain_ofFault`,
`SessionError.status_toHandlerError`, `Session.told_finish`, `Line.Run.told`,
`Line.Run.result_of_fault`, `fault_reported`.
-/
import LongPoll.Proofs.Conservation
import LongPoll.Proofs.Numbering
import LongPoll.Proofs.Preemption

namespace LongPoll

open Event

variable {β π : Type}

/-! ### The chain of a fault -/

namespace Fault

def source? : Fault → Option Fault
  | plain _ | position _ => none
  | handler error => some error.cause
  | session (.handler error) => some (.handler error)
  | session _ => none
  | io inner => inner.source?

/-- The fault and all that is behind it, down to the root. -/
def chain (fault : Fault) : List Fault := fault :: fault.sources

/-- The sources of a fault are found by going to the one right behind it, over and over. -/
theorem sources_eq : ∀ fault : Fault, fault.sources = fault.source?.elim [] chain
  | plain _ | position _ | handler (.tagged _ _) => rfl
  | session (.handler _) | session (.unknownPosition _) | session (.bufferFull _)
  | session (.handlerPanicked _) | session (.positionOverflow _) | session (.outOfOrder _ _) => rfl
  | io inner => sources_eq inner

theorem chain_suffix {link : Fault} (fault : Fault) (h : link ∈ fault.chain) :
    link.chain <:+ fault.chain := by
  rcases List.mem_cons.mp h with rfl | hbehind
  · exact List.suffix_rfl
  · rw [sources_eq] at hbehind
    cases hs : fault.source? with
    | none =>
      rw [hs] at hbehind
      cases hbehind
    | some next =>
      rw [hs] at hbehind
      have hchain : fault.chain = fault :: next.chain := by
        rw [chain, sources_eq, hs]
        rfl
      rw [hchain]
      exact (chain_suffix next hbehind).trans (List.suffix_cons ..)
termination_by fault.chain.length
decreasing_by
  rw [hchain]
  exact Nat.lt_succ_self _

end Fault

/-! ### The two conversions -/

namespace HandlerError

/-- A fault that is no handler error becomes the cause of an internal one, whatever is inside it. -/
theorem ofFault_of_untagged {fault : Fault} (h : ∀ error, fault ≠ .handler error) :
    ofFault fault = internal fault := by
  cases fault with
  | handler error => exact absurd rfl (h error)
  | _ => rfl

/-- **No link is lost**, though there may be one more in front. -/
theorem chain_ofFault (fault : Fault) : fault.chain <:+ (Fault.handler (ofFault fault)).chain := by
  by_cases h : ∃ error, fault = .handler error
  · obtain ⟨error, rfl⟩ := h
    exact List.suffix_rfl
  · rw [ofFault_of_untagged fun error he => h ⟨error, he⟩]
    exact List.suffix_cons ..

theorem sources_ofFault (fault : Fault) : fault.sources <:+ (ofFault fault).sources := by
  rcases List.suffix_cons_iff.mp (chain_ofFault fault) with hsame | hbehind
  · rw [(List.cons.inj hsame).2]
    exact List.suffix_rfl
  · exact (List.suffix_cons ..).trans hbehind

end HandlerError

namespace SessionError

variable (error : SessionError)

theorem status_toHandlerError : error.toHandlerError.status = error.status := by
  cases error <;> rfl

variable {error}

theorem message_toHandlerError (h : ∀ tagged, error ≠ .handler tagged) :
    error.toHandlerError.cause.message = error.message := by
  cases error with
  | handler tagged => exact absurd rfl (h tagged)
  | _ => rfl

end SessionError

/-! ### What is told of a failure -/

/-- The event that tells of a handler that failed with the fault. -/
def Fault.report (fault : Fault) : Event :=
  let error := HandlerError.ofFault fault
  .handlerFailed error.status error.cause.message

def Reply.fault? : Reply π → Option Fault
  | fail fault => some fault
  | respond _ | panic _ => none

def Reply.faults (replies : List (Reply π)) : List Fault := replies.filterMap fault?

theorem Reply.faults_append (replies more : List (Reply π)) :
    faults (replies ++ more) = faults replies ++ faults more :=
  List.filterMap_append ..

namespace Event

def told (k : Kind) (events : List Event) : List Event := events.filter fun event => event.kind = k

theorem told_append (k : Kind) (events more : List Event) :
    told k (events ++ more) = told k events ++ told k more :=
  List.filter_append ..

end Event

namespace Session

theorem told_conclude (setup : Setup) (standing : Standing) (acked : Nat) (events : List Event)
    (s : Session β π) (result : Except SessionError (Response π)) :
    told .handlerFailed (conclude setup standing acked events s result).events =
      told .handlerFailed events := by
  rw [conclude, told_append]
  exact List.append_nil _

theorem told_plan [DecidableEq β] (setup : Setup) (s : Session β π) (r : Request β) :
    told .handlerFailed (s.plan setup r).events = [] := by
  refine List.filter_eq_nil_iff.mpr fun event hmem hkind => ?_
  have hdecision := s.isDecision_plan setup r event hmem
  cases event with
  | handlerFailed status message => cases hdecision
  | _ => cases of_decide_eq_true hkind

theorem told_finish (setup : Setup) (s : Session β π) (call : Invocation β) (reply : Reply π) :
    told .handlerFailed (s.finish setup call reply).events =
      (Reply.faults [reply]).map Fault.report := by
  cases reply with
  | respond response => exact told_conclude ..
  | fail fault => exact told_conclude ..
  | panic payload => exact told_conclude ..

/-- A call whose handler fails ends with the fault, tagged, and that is told once. -/
theorem exchange_of_fault [DecidableEq β] {setup : Setup} {s : Session β π} {r : Request β}
    {fault : Fault} {call : Invocation β} (h : call ∈ (s.exchange setup r (.fail fault)).asked) :
    let outcome := (s.exchange setup r (.fail fault)).outcome
    outcome.result = .error (.handler (.ofFault fault)) ∧
      told .handlerFailed outcome.events = [fault.report] := by
  obtain ⟨events, hplan⟩ := mem_asked_iff.mp h
  have hbefore := told_plan setup s r
  rw [hplan, Plan.events] at hbefore
  rw [exchange_of_invoke hplan]
  refine ⟨rfl, ?_⟩
  rw [told_append, hbefore, told_finish]
  rfl

end Session

/-! ### Overlapping calls -/

namespace Line

variable [DecidableEq β] {setup : Setup} {l next : Line β π} {m : Move β π}
  {events new : List Event} {moves : List (Move β π)}

theorem Moved.told (hm : Moved setup l m next new) :
    told .handlerFailed new = (Reply.faults m.reply?.toList).map Fault.report := by
  cases hm with
  | answered i r outcome hp hh hplan =>
    have hnone := l.session.told_plan setup r
    rwa [hplan] at hnone
  | invoked i r call planned hp hh hplan =>
    have hnone := l.session.told_plan setup r
    rwa [hplan] at hnone
  | replied i call reply hp => exact l.session.told_finish setup call reply
  | _ => rfl

/-- **The failures that are told** are those of the faults that handlers failed with. -/
theorem Run.told (hrun : Run setup moves l events) :
    told .handlerFailed events = (Reply.faults (replies moves)).map Fault.report := by
  induction hrun with
  | start => rfl
  | concat hrun hmove ih =>
    rw [told_append, ih, (moved_of_move? hmove).told, replies_concat, Reply.faults_append,
      List.map_append]

/-- **A call whose handler failed** has the fault as its result, from then on. -/
theorem Run.result_of_fault (hrun : Run setup moves l events) {i : Nat} {fault : Fault}
    (h : .reply i (.fail fault) ∈ moves) :
    l.result? i = some (.error (.handler (.ofFault fault))) := by
  rw [result?_eq_some_iff]
  induction hrun with
  | start => cases h
  | concat hrun hmove ih =>
    have hm := moved_of_move? hmove
    rcases List.mem_append.mp h with hearlier | hlast
    · exact hm.ended (ih hearlier)
    · cases List.mem_singleton.mp hlast
      cases hm with
      | replied i call reply hp => exact status?_reply hp setup call (.fail fault)

end Line

/-- **A fault loses nothing on its way.** Whatever a handler fails with, the error `h` made of it is
the fault itself if that is a handler error, and otherwise an internal one with the fault as its
cause. `h` has all sources of the fault behind it, each link with the same chain as before, and made
into an error again it stays as it is. A call whose handler is asked and fails with the fault ends
with `h`, and what is told of the failure is the status of `h` and the message of its cause, once.
Where calls overlap, so does every call whose handler failed, and the failures that are told are
those of the faults, in this order. And whatever a session refuses a request with, tagged it has the
same status and so belongs to the client or the server as before; a handler error stays as it is,
and any other reads as it did. -/
theorem fault_reported [DecidableEq β] (setup : Setup) :
    (∀ fault : Fault,
      let h := HandlerError.ofFault fault
      (∀ error, fault = .handler error → h = error) ∧
        ((∀ error, fault ≠ .handler error) → h.status = Status.internal ∧ h.cause = fault) ∧
        fault.sources <:+ h.sources ∧
        (∀ link ∈ fault.chain, link.chain <:+ (Fault.handler h).chain) ∧
        HandlerError.ofFault (.handler h) = h ∧
        ∀ (s : Session β π) (r : Request β),
          let e := s.exchange setup r (.fail fault)
          ∀ call ∈ e.asked, e.outcome.result = .error (.handler h) ∧
            told .handlerFailed e.outcome.events = [.handlerFailed h.status h.cause.message]) ∧
      (∀ (moves : List (Line.Move β π)) (l : Line β π) (events : List Event),
        Line.start.moves? setup moves = some (l, events) →
          (∀ i fault, .reply i (.fail fault) ∈ moves →
            l.result? i = some (.error (.handler (.ofFault fault)))) ∧
            told .handlerFailed events = (Reply.faults (Line.replies moves)).map Fault.report) ∧
      ∀ error : SessionError,
        let h := error.toHandlerError
        h.status = error.status ∧ Status.isClient h.status = Status.isClient error.status ∧
          Status.isServer h.status = Status.isServer error.status ∧
          (∀ tagged, error = .handler tagged → h = tagged) ∧
          ((∀ tagged, error ≠ .handler tagged) → h.cause.message = error.message) := by
  refine ⟨fun fault => ?_, fun moves l events h => ?_, fun error => ?_⟩
  · intro h
    refine ⟨?_, fun huntagged => ?_, HandlerError.sources_ofFault fault, fun link hlink => ?_, rfl,
      fun s r => ?_⟩
    · rintro error rfl
      rfl
    · have hinternal : h = .internal fault := HandlerError.ofFault_of_untagged huntagged
      rw [hinternal]
      exact ⟨rfl, rfl⟩
    · exact (Fault.chain_suffix fault hlink).trans (HandlerError.chain_ofFault fault)
    · intro e call hcall
      exact Session.exchange_of_fault hcall
  · have hrun := Line.run_of_moves? h
    exact ⟨fun i fault hmem => hrun.result_of_fault hmem, hrun.told⟩
  · intro h
    have hstatus : h.status = error.status := error.status_toHandlerError
    refine ⟨hstatus, by rw [hstatus], by rw [hstatus], ?_, SessionError.message_toHandlerError⟩
    rintro tagged rfl
    rfl

/-- The handler of the first call fails with an input or output error around a session's error
around a handler error of status 403, which is not dug out. -/
theorem fault_reported_of_buried :
    let tagged : HandlerError := .tagged 403 (.plain "forbidden")
    let fault : Fault := .io (.session (.handler tagged))
    let h := HandlerError.ofFault fault
    let r : Request Nat := .fresh .initial 1
    let e := (Session.start : Session Nat Nat).exchange default r (.fail fault)
    let moves : List (Line.Move Nat Nat) :=
      [.arrive r, .preempt 0, .acquire 0, .reply 0 (.fail fault)]
    HandlerError.ofFault (.handler tagged) = tagged ∧
      h.status = 500 ∧ h.cause = fault ∧ h.sources = [fault, .handler tagged, .plain "forbidden"] ∧
      (Fault.handler tagged).chain <:+ (Fault.handler h).chain ∧
      e.outcome.result = .error (.handler h) ∧
      told .handlerFailed e.outcome.events =
        [.handlerFailed 500 "handler failed: forbidden (status 403)"] ∧
      (∃ l events, (Line.start : Line Nat Nat).moves? default moves = some (l, events) ∧
        l.result? 0 = some (.error (.handler h)) ∧
        told .handlerFailed events = [fault.report]) ∧
      (SessionError.handler tagged).toHandlerError = tagged ∧
      (SessionError.bufferFull 4).toHandlerError.cause.message =
        (SessionError.bufferFull 4).message := by
  intro tagged fault h r e moves
  obtain ⟨hfaults, hmoves, herrors⟩ := fault_reported (β := Nat) (π := Nat) default
  have hmessage : h.cause.message = "handler failed: forbidden (status 403)" := by decide +kernel
  obtain ⟨-, huntagged, -, hchain, -, hcalls⟩ := hfaults fault
  obtain ⟨hstatus, hcause⟩ := huntagged nofun
  have hasked : e.asked =
      [{ request := r, standing := (Session.start : Session Nat Nat).standing r, acked := 0
         position := .ofNat 1 }] := by
    decide +kernel
  obtain ⟨hresult, htold⟩ := hcalls Session.start r _ (hasked ▸ List.mem_singleton_self _)
  rw [hstatus, hmessage] at htold
  have hrun : ((Line.start : Line Nat Nat).moves? default moves).isSome = true := by decide +kernel
  obtain ⟨⟨l, events⟩, hmoved⟩ := Option.isSome_iff_exists.mp hrun
  obtain ⟨hended, hreported⟩ := hmoves moves l events hmoved
  exact ⟨(hfaults (.handler tagged)).1 tagged rfl, hstatus, hcause, rfl,
    hchain (.handler tagged) (by decide), hresult, htold,
    ⟨l, events, hmoved, hended 0 fault (by simp [moves]), hreported⟩,
    (herrors (.handler tagged)).2.2.2.1 tagged rfl, (herrors (.bufferFull 4)).2.2.2.2 nofun⟩

end LongPoll
