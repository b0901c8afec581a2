/-
# What is told of a call

Of a request of unknown position nothing is told but that. Of any other call is told, in this order:
that the device came back with another body; that it was served from the buffer, or else that its
timeout was lowered; what went wrong; and that the call finished. All of it can be read off the
history and the result (`Exchange.trace`): the last event names as many responses as the call
dropped, and the position of the response that the device got.

A call takes one of seven courses (`Course`), each with what the handler was asked, the result, and
the events.

Key definitions: `History.Changed`, `Session.Hurries`, `Exchange.trace`, `Course`.
Key theorems: `Session.Tracks.notices_eq`, `Session.Tracks.course`, `Ending.buffer`,
`Course.events_eq`, `event_trace`.
-/
import LongPoll.Proofs.Invariant

namespace LongPoll

open History

variable {β π : Type}

/-! ### What the history and the result say -/

/-- The device came back to the position of its last answered request with another body. -/
def History.Changed (h : History β π) (r : Request β) : Prop :=
  r.position.val ≠ 0 ∧ ∃ q ∈ last? h, q.position = r.position ∧ q.body ≠ r.body

instance [DecidableEq β] (h : History β π) (r : Request β) : Decidable (Changed h r) :=
  inferInstanceAs (Decidable (_ ∧ _))

/-- A response stays buffered once the request's acknowledgment is applied, and the device is ready
to wait longer than it then may. -/
def Session.Hurries (setup : Setup) (s : Session β π) (r : Request β) : Prop :=
  0 < (s.buffer.acknowledge r.position).size ∧ setup.limits.minTimeout < r.timeout

instance (setup : Setup) (s : Session β π) (r : Request β) : Decidable (s.Hurries setup r) :=
  inferInstanceAs (Decidable (_ ∧ _))

/-- The response of a call that was answered without the handler. -/
def Exchange.fromBuffer? (e : Exchange β π) : Option (Response π) :=
  if e.asked.isEmpty then e.outcome.result.toOption else none

/-- What is told of an error besides that the call finished. -/
def SessionError.notices : SessionError → List Event
  | bufferFull limit => [.bufferFull limit]
  | handler error => [.handlerFailed error.status error.cause.message]
  | handlerPanicked message => [.handlerPanicked message]
  | unknownPosition _ | positionOverflow _ | outOfOrder _ _ => []

namespace Exchange

/-- What is told before a call of known position is served or fails. -/
def opening [DecidableEq β] (setup : Setup) (s : Session β π) (h : History β π)
    (e : Exchange β π) : List Event :=
  (if Changed h e.request then [.bodyChanged e.request.position] else [])
    ++ match e.fromBuffer? with
      | some response => [.replayed e.request.position response.position]
      | none =>
        if s.Hurries setup e.request then
          [.timeoutShrunk e.request.timeout setup.limits.minTimeout]
        else []

/-- The end of a call of known position that dropped `acked` responses. -/
def closing [DecidableEq β] (setup : Setup) (s : Session β π) (e : Exchange β π) (acked : Nat) :
    List Event :=
  match e.outcome.result with
  | .ok response =>
    [.finished { acked, standing := s.standing e.request, userId := setup.userId
                 newPosition := some response.position }]
  | .error error =>
    error.notices ++
      [.finished { acked, standing := s.standing e.request, userId := setup.userId
                   newPosition := s.buffer.oldest? }]

/-- What is told of a call of known position that dropped `acked` responses. -/
def trace [DecidableEq β] (setup : Setup) (s : Session β π) (h : History β π)
    (e : Exchange β π) (acked : Nat) : List Event :=
  e.opening setup s h ++ e.closing setup s acked

end Exchange

/-! ### Notices -/

namespace Session

theorem pending_eq_size (s : Session β π) (r : Request β) :
    s.pending r = (s.buffer.acknowledge r.position).size := by
  have hsplit := s.buffer.coveredBy_add_size r.position
  rw [pending]
  omega

theorem asked_timeout (setup : Setup) (s : Session β π) (r : Request β) :
    (s.asked setup r).timeout =
      if s.Hurries setup r then setup.limits.minTimeout else r.timeout := by
  unfold asked Request.shrinkTimeout
  rw [pending_eq_size]
  by_cases hh : s.Hurries setup r
  · rw [if_pos hh, if_pos hh.1, if_pos hh.2]
  · rw [if_neg hh]
    by_cases hleft : 0 < (s.buffer.acknowledge r.position).size
    · rw [if_pos hleft, if_neg fun hlong => hh ⟨hleft, hlong⟩]
    · rw [if_neg hleft]

/-- The timeout is lowered exactly if a response stays buffered and the device is ready to wait
longer than it then may. -/
theorem asked_timeout_ne_iff (setup : Setup) (s : Session β π) (r : Request β) :
    (s.asked setup r).timeout ≠ r.timeout ↔ s.Hurries setup r := by
  rw [asked_timeout]
  by_cases hh : s.Hurries setup r
  · have hlt : setup.limits.minTimeout.nanos < r.timeout.nanos := hh.2
    have hne : setup.limits.minTimeout ≠ r.timeout := fun heq => by
      rw [heq] at hlt
      exact Nat.lt_irrefl _ hlt
    simp [hh, hne]
  · simp [hh]

variable [DecidableEq β] {s : Session β π} {h : History β π} (t : s.Tracks h)

include t

theorem Tracks.changed_iff (r : Request β) :
    ((s.standing r).isRetransmit && !(s.standing r).isSame) = true ↔ Changed h r := by
  rw [Bool.and_eq_true, Bool.not_eq_true', ← Bool.not_eq_true, t.isRetransmit_iff, t.isSame_iff]
  constructor
  · rintro ⟨⟨h0, q, hq, hposition⟩, hother⟩
    exact ⟨h0, q, hq, hposition, fun hbody => hother ⟨h0, q, hq, hbody⟩⟩
  · rintro ⟨h0, q, hq, hposition, hbody⟩
    refine ⟨⟨h0, q, hq, hposition⟩, ?_⟩
    rintro ⟨-, q', hq', hbody'⟩
    obtain rfl : q = q' := Option.some_inj.mp (hq.symm.trans hq')
    exact hbody hbody'

/-- What is told of a request before it is processed, as its history has it. -/
theorem Tracks.notices_eq (setup : Setup) (r : Request β) :
    s.notices setup (s.standing r) r =
      (if Changed h r then [.bodyChanged r.position] else [])
        ++ if s.Hurries setup r then [.timeoutShrunk r.timeout setup.limits.minTimeout]
          else [] := by
  simp only [notices]
  congr 1
  · by_cases hc : Changed h r
    · rw [if_pos hc, if_pos ((t.changed_iff r).mpr hc)]
    · rw [if_neg hc, if_neg fun hretransmit => hc ((t.changed_iff r).mp hretransmit)]
  · by_cases hh : s.Hurries setup r
    · rw [if_pos hh, if_pos ((asked_timeout_ne_iff setup s r).mpr hh), asked_timeout, if_pos hh]
    · rw [if_neg hh, if_neg fun hne => hh ((asked_timeout_ne_iff setup s r).mp hne)]

end Session

/-! ### The course of a call -/

/-- How many responses the call dropped from the buffer. -/
def Exchange.dropped (s : Session β π) (e : Exchange β π) : Nat :=
  if e.isAnswered then s.buffer.coveredBy e.request.position else 0

def Exchange.finish [DecidableEq β] (setup : Setup) (s : Session β π) (e : Exchange β π) : Event :=
  .finished
    { acked := e.dropped s
      standing := s.standing e.request, userId := setup.userId
      newPosition := e.outcome.session.buffer.oldest? }

/-- What the handler was asked in a call, how the call ended, and all that was told of it. -/
inductive Course [DecidableEq β] (setup : Setup) (s : Session β π) (h : History β π)
    (e : Exchange β π) : Prop
  | unknown (hk : ¬ Known h e.request.position) (ha : e.asked = [])
      (hr : e.outcome.result = .error (.unknownPosition e.request.position))
      (hev : e.outcome.events = [.unknownPosition e.request.position])
  | replayed (head : Response π) (hk : Known h e.request.position) (ho : Owed h e.request)
      (ha : e.asked = []) (hr : e.outcome.result = .ok head)
      (hev : e.outcome.events = [.replayed e.request.position head.position, e.finish setup s])
  | full (limit : Nat) (hk : Known h e.request.position)
      (hm : setup.limits.maxBuffered = some limit) (ha : e.asked = [])
      (hr : e.outcome.result = .error (.bufferFull limit))
      (hev : e.outcome.events =
        s.notices setup (s.standing e.request) e.request ++ [.bufferFull limit, e.finish setup s])
  | exhausted (last : Position) (hk : Known h e.request.position)
      (hn : newest h = wordLimit - 1) (ha : e.asked = [])
      (hr : e.outcome.result = .error (.positionOverflow last))
      (hev : e.outcome.events =
        s.notices setup (s.standing e.request) e.request ++ [e.finish setup s])
  | responded (call : Invocation β) (response head : Response π)
      (hk : Known h e.request.position) (ha : e.asked = [call])
      (hreply : e.reply = .respond response) (hr : e.outcome.result = .ok head)
      (hev : e.outcome.events =
        s.notices setup (s.standing e.request) e.request ++ [e.finish setup s])
  | failed (call : Invocation β) (fault : Fault) (error : HandlerError)
      (hk : Known h e.request.position) (ha : e.asked = [call]) (hreply : e.reply = .fail fault)
      (hr : e.outcome.result = .error (.handler error))
      (hev : e.outcome.events = s.notices setup (s.standing e.request) e.request ++
        [.handlerFailed error.status error.cause.message, e.finish setup s])
  | panicked (call : Invocation β) (payload : PanicPayload) (hk : Known h e.request.position)
      (ha : e.asked = [call]) (hreply : e.reply = .panic payload)
      (hr : e.outcome.result = .error (.handlerPanicked payload.message))
      (hev : e.outcome.events = s.notices setup (s.standing e.request) e.request ++
        [.handlerPanicked payload.message, e.finish setup s])

/-- **Every call takes one of the courses.** -/
theorem Session.Tracks.course [DecidableEq β] {s : Session β π} {h : History β π} (t : s.Tracks h)
    (setup : Setup) (r : Request β) (reply : Reply π) :
    Course setup s h (s.exchange setup r reply) := by
  have hv := t.verdict setup r
  generalize hplan : s.plan setup r = plan at hv
  cases hv with
  | unknown hk =>
    rw [exchange_of_answer hplan]
    exact .unknown hk rfl rfl rfl
  | owed head hk ho hh =>
    rw [exchange_of_answer hplan]
    exact .replayed head hk ho rfl rfl rfl
  | full limit hk ho hm hl =>
    rw [exchange_of_answer hplan]
    exact .full limit hk hm rfl rfl (List.append_assoc ..)
  | exhausted hk ho hf hn =>
    rw [exchange_of_answer hplan]
    exact .exhausted s.lastPosition hk hn rfl rfl rfl
  | invoked position hk ho hf hpos =>
    rw [exchange_of_invoke hplan]
    cases reply with
    | respond response =>
      obtain ⟨-, head, -, hcommit⟩ :=
        t.commit ⟨s.asked setup r, s.standing r, s.buffer.coveredBy r.position, position⟩ hpos
          (t.asked_le setup hk) response
      simp only [finish, hcommit]
      exact .responded _ response head hk rfl rfl rfl rfl
    | fail fault => exact .failed _ fault _ hk rfl rfl rfl rfl
    | panic payload => exact .panicked _ payload hk rfl rfl rfl rfl

/-! ### What the last event says -/

namespace Exchange

variable {s : Session β π} {e : Exchange β π}

theorem dropped_of_error {error : SessionError} (hr : e.outcome.result = .error error) :
    e.dropped s = 0 := by
  rw [dropped, isAnswered_of_error hr]
  rfl

theorem dropped_of_ok {response : Response π} (hr : e.outcome.result = .ok response) :
    e.dropped s = s.buffer.coveredBy e.request.position := by
  rw [dropped, if_pos (isAnswered_of_ok hr)]

end Exchange

namespace Ending

variable {s : Session β π} {h : History β π} {e : Exchange β π} (hend : Ending s h e)
  (t : s.Tracks h)

include hend t

/-- What is acknowledged after a call is what was acknowledged before and what the call drops. -/
theorem acked_concat : acked (h ++ [e]) = acked h + e.dropped s := by
  cases hend with
  | failed error hr hs hp =>
    rw [History.acked_concat, Exchange.isAnswered_of_error hr, Exchange.dropped_of_error hr]
    rfl
  | answered head q hr hk hlast hq hpos hbuf hh =>
    have hle : e.request.position.val ≤ newest h := t.known_le hk
    have hacked : acked h ≤ newest h := t.acked_le
    rw [History.acked_concat, if_pos (Exchange.isAnswered_of_ok hr), Exchange.dropped_of_ok hr,
      t.buffer.drop_coveredBy, stream_length]
    omega

/-- A call drops responses at the front of the buffer, and adds at its end what was produced. -/
theorem buffer : e.dropped s ≤ s.buffer.size ∧ ∃ added, added.length = e.produced.length ∧
    e.outcome.session.buffer.responses = s.buffer.responses.drop (e.dropped s) ++ added := by
  have hcut := hend.acked_concat t
  cases hend with
  | failed error hr hs hp =>
    rw [Exchange.dropped_of_error hr, hs, hp]
    exact ⟨Nat.zero_le _, [], rfl, (List.append_nil _).symm⟩
  | answered head q hr hk hlast hq hpos hbuf hh =>
    have hsplit := s.buffer.coveredBy_add_size e.request.position
    have hdropped : e.dropped s = s.buffer.coveredBy e.request.position :=
      Exchange.dropped_of_ok hr
    refine ⟨by omega, ?_⟩
    obtain ⟨added, hadded⟩ := stream_prefix h [e]
    have hlength : newest h + added.length = newest h + e.produced.length := by
      rw [← newest_concat, ← stream_length, ← stream_length, ← hadded, List.length_append]
    refine ⟨added, by omega, ?_⟩
    rw [History.acked_concat, if_pos (Exchange.isAnswered_of_ok hr)] at hcut
    have hshort : max (acked h) e.request.position.val ≤ (stream h).length := by
      rw [stream_length]
      exact Nat.max_le.mpr ⟨t.acked_le, t.known_le hk⟩
    calc e.outcome.session.buffer.responses
        = (stream (h ++ [e])).drop (max (acked h) e.request.position.val) := hbuf.responses
      _ = (stream h).drop (max (acked h) e.request.position.val) ++ added := by
          rw [← hadded, List.drop_append_of_le_length hshort]
      _ = s.buffer.responses.drop (e.dropped s) ++ added := by
          rw [hcut, ← List.drop_drop, t.buffer.responses]

omit t in
/-- After an answered call the oldest buffered response is the one that the device got. -/
theorem oldest?_of_ok {response : Response π} (hr : e.outcome.result = .ok response) :
    e.outcome.session.buffer.oldest? = some response.position := by
  cases hend with
  | failed error herror hs hp =>
    rw [hr] at herror
    cases herror
  | answered head q hok hk hlast hq hpos hbuf hh =>
    obtain rfl : response = head := Except.ok.inj (hr.symm.trans hok)
    rw [Buffer.oldest?, hbuf.head?, hh, Option.map_some]

variable [DecidableEq β] (setup : Setup)

omit t in
theorem closing_of_ok {response : Response π} (hr : e.outcome.result = .ok response) :
    e.closing setup s (e.dropped s) = [e.finish setup s] := by
  rw [Exchange.closing, hr, Exchange.finish, hend.oldest?_of_ok hr]

omit t in
theorem closing_of_error {error : SessionError} (hr : e.outcome.result = .error error) :
    e.closing setup s (e.dropped s) = error.notices ++ [e.finish setup s] := by
  rw [Exchange.closing, hr, Exchange.finish, (hend.of_error hr).1]

end Ending

/-! ### The trace of a call -/

theorem History.Owed.not_changed {h : History β π} {r : Request β} (ho : Owed h r) :
    ¬ Changed h r := by
  rintro ⟨-, q, hq, -, hbody⟩
  obtain ⟨-, ⟨q', hq', hsame⟩, -⟩ := ho
  obtain rfl : q = q' := Option.some_inj.mp (hq.symm.trans hq')
  exact hbody hsame

theorem Exchange.fromBuffer?_of_error {e : Exchange β π} {error : SessionError}
    (hr : e.outcome.result = .error error) : e.fromBuffer? = none := by
  rw [fromBuffer?, hr]
  split <;> rfl

theorem Exchange.fromBuffer?_of_asked {e : Exchange β π} {call : Invocation β}
    (ha : e.asked = [call]) : e.fromBuffer? = none := by
  rw [fromBuffer?, ha]
  rfl

section
variable [DecidableEq β] {setup : Setup} {s : Session β π} {h : History β π} {e : Exchange β π}

theorem Session.Tracks.opening_of_none (t : s.Tracks h) (hnone : e.fromBuffer? = none) :
    e.opening setup s h = s.notices setup (s.standing e.request) e.request := by
  rw [Exchange.opening, hnone, t.notices_eq]

/-- A call that fails has in its trace the notices on its request, what is told of the error, and
its end. -/
theorem Ending.trace_of_error (hend : Ending s h e) (t : s.Tracks h) {error : SessionError}
    (hr : e.outcome.result = .error error) : e.trace setup s h (e.dropped s) =
      s.notices setup (s.standing e.request) e.request
        ++ (error.notices ++ [e.finish setup s]) := by
  rw [Exchange.trace, t.opening_of_none (Exchange.fromBuffer?_of_error hr),
    hend.closing_of_error setup hr]

/-- **What is told of a call of known position is its trace.** -/
theorem Course.events_eq (hcourse : Course setup s h e) (t : s.Tracks h) (hend : Ending s h e)
    (hknown : Known h e.request.position) :
    e.outcome.events = e.trace setup s h (e.dropped s) := by
  cases hcourse with
  | unknown hk ha hr hev => exact absurd hknown hk
  | replayed head hk ho ha hr hev =>
    have hserved : e.fromBuffer? = some head := by
      rw [Exchange.fromBuffer?, ha, hr]
      rfl
    rw [hev, Exchange.trace, Exchange.opening, if_neg ho.not_changed, hserved,
      hend.closing_of_ok setup hr]
    rfl
  | full limit hk hm ha hr hev =>
    rw [hev, hend.trace_of_error t hr]
    rfl
  | exhausted last hk hn ha hr hev =>
    rw [hev, hend.trace_of_error t hr]
    rfl
  | responded call response head hk ha hreply hr hev =>
    rw [hev, Exchange.trace, t.opening_of_none (Exchange.fromBuffer?_of_asked ha),
      hend.closing_of_ok setup hr]
  | failed call fault error hk ha hreply hr hev =>
    rw [hev, hend.trace_of_error t hr]
    rfl
  | panicked call payload hk ha hreply hr hev =>
    rw [hev, hend.trace_of_error t hr]
    rfl

theorem Course.events_of_unknown (hcourse : Course setup s h e)
    (hunknown : ¬ Known h e.request.position) :
    e.outcome.events = [.unknownPosition e.request.position] := by
  cases hcourse with
  | unknown hk ha hr hev => exact hev
  | replayed head hk ho ha hr hev => exact absurd hk hunknown
  | full limit hk hm ha hr hev => exact absurd hk hunknown
  | exhausted last hk hn ha hr hev => exact absurd hk hunknown
  | responded call response head hk ha hreply hr hev => exact absurd hk hunknown
  | failed call fault error hk ha hreply hr hev => exact absurd hk hunknown
  | panicked call payload hk ha hreply hr hev => exact absurd hk hunknown

end

/-- **The trace of a call.** After any run of calls, of one more call at an unknown position nothing
is told but that. Of any other call is told, in this order: that the body changed, exactly if the
device came back to the position of its last answered request, which is not 0, with another body;
that a buffered response was given out, exactly if the call was answered without the handler, or
else that the timeout was lowered, exactly if a response stays buffered once the acknowledgment is
applied and the device is ready to wait longer than the least timeout; a full buffer, a failed or a
panicked handler, exactly if the call failed with that error; and that it finished. The last event
counts what the call dropped from the front of the buffer, which is nothing if the call failed, and
names the position of the response that the device got, or that of the oldest one that is buffered
as before. -/
theorem event_trace [DecidableEq β] (setup : Setup) (calls : List (Request β × Reply π))
    (r : Request β) (reply : Reply π) :
    let s := (Session.start : Session β π).after setup calls
    let h := (Session.start : Session β π).history setup calls
    let e := s.exchange setup r reply
    (¬ Known h r.position → e.outcome.events = [.unknownPosition r.position]) ∧
      (Known h r.position → ∃ acked added,
        e.outcome.events = e.trace setup s h acked ∧ acked ≤ s.buffer.size ∧
          added.length = e.produced.length ∧
          e.outcome.session.buffer.responses = s.buffer.responses.drop acked ++ added ∧
          (e.isAnswered = false → acked = 0 ∧ e.outcome.session = s)) := by
  intro s h e
  have t : s.Tracks h := Session.tracks_after setup calls
  have hcourse : Course setup s h e := t.course setup r reply
  have hend : Ending s h e := t.ending setup r reply
  refine ⟨hcourse.events_of_unknown, fun hknown => ?_⟩
  obtain ⟨hle, added, hlength, hbuffer⟩ := hend.buffer t
  refine ⟨e.dropped s, added, hcourse.events_eq t hend hknown, hle, hlength, hbuffer, ?_⟩
  intro hfailed
  refine ⟨?_, ?_⟩
  · rw [Exchange.dropped, hfailed]
    rfl
  · cases hend with
    | failed error hr hs hp => exact hs
    | answered head q hr hk hlast hq hpos hbuf hh =>
      rw [Exchange.isAnswered_of_ok hr] at hfailed
      cases hfailed

/-- The device comes back with another body while a response is left for it, and the handler fails:
all three are told, and that nothing was dropped. Then it asks from a position that it was never
given. -/
theorem event_trace_of_failure :
    let ask (p body : Nat) : Request Nat := .fresh (.ofNat p) body
    let calls : List (Request Nat × Reply Nat) :=
      [(ask 0 1, .respond (.fresh 10)), (ask 1 2, .respond (.fresh 20))]
    let s := (Session.start : Session Nat Nat).after default calls
    let h := (Session.start : Session Nat Nat).history default calls
    let e := s.exchange default (ask 1 3) (.fail (.plain "down"))
    let lost := s.exchange default (ask 7 3) (.fail (.plain "down"))
    Known h (.ofNat 1) ∧ e.isAnswered = false ∧ e.outcome.events = e.trace default s h 0 ∧
      e.trace default s h 0 =
        [.bodyChanged (.ofNat 1), .timeoutShrunk (.ofSeconds 30) (.ofMillis 1),
          .handlerFailed 500 "down",
          .finished
            { acked := 0, standing := s.standing (ask 1 3), userId := ""
              newPosition := some (.ofNat 2) }] ∧
      ¬ Known h (.ofNat 7) ∧ lost.outcome.events = [.unknownPosition (.ofNat 7)] := by
  intro ask calls s h e lost
  have hlast : last? h = some (ask 1 2) := by
    decide +kernel
  have hnumbers : newest h = 2 ∧ acked h = 1 := by
    decide +kernel
  have hknown : Known h (.ofNat 1) := .inr (.inr ⟨ask 1 2, hlast, rfl⟩)
  have hunknown : ¬ Known h (.ofNat 7) := by
    have hseven : (Position.ofNat 7).val = 7 := rfl
    rw [Known, hlast, hnumbers.1, hnumbers.2, hseven]
    rintro (h0 | ⟨-, hp | hp⟩ | ⟨q, hq, hp⟩)
    · cases h0
    · cases hp
    · cases hp
    · cases hq
      have hone : (Position.ofNat 1).val = 7 := congrArg Position.val hp
      cases hone
  have hfailed : e.isAnswered = false := by
    decide +kernel
  obtain ⟨acked, added, hevents, -, -, -, hnothing⟩ :=
    (event_trace default calls (ask 1 3) (.fail (.plain "down"))).2 hknown
  obtain ⟨rfl, -⟩ := hnothing hfailed
  have htrace : e.outcome.events = e.trace default s h 0 := by
    simp only [e, s, h]
    exact hevents
  have hrefused : lost.outcome.events = [.unknownPosition (.ofNat 7)] := by
    simp only [lost, s]
    exact (event_trace default calls (ask 7 3) (.fail (.plain "down"))).1 hunknown
  refine ⟨hknown, hfailed, htrace, ?_, hunknown, hrefused⟩
  decide +kernel

end LongPoll
