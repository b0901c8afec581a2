/-
# The session between a device and its handler

A session remembers the last request that it answered, the responses that the device has not
acknowledged, and the newest position that it gave out. A request is first planned: it is refused,
or served from the buffer, or goes to the handler. What the handler replies then finishes it. Only
an answered request changes the session; a refused or failed one leaves it as it was.

The two halves are apart because the handler may take long: `plan` says what is asked of it, and
`finish` is applied to what it replies. `step` is one after the other.

Key definitions: `Session`, `Session.standing`, `Session.owed?`, `Session.plan`, `Session.finish`,
`Session.step`, `Session.run`, `Session.serve`.
Key theorems: `Session.eq_of_mem_notices`, `Session.owed?_eq`, `Session.plan_of_unknown`,
`Session.plan_of_replay`, `Session.plan_of_consult`, `Session.serve_eq_step`.
-/
import LongPoll.Buffer
import LongPoll.Event
import LongPoll.Limits

namespace LongPoll

/-- What is fixed about a connection. -/
structure Setup where
  id : ConnId
  userId : String
  limits : Limits
deriving DecidableEq, Inhabited

/-- What a session remembers. -/
structure Session (β π : Type) where
  /-- The last request that was answered. -/
  lastRequest? : Option (Request β)
  /-- The responses that the device has not acknowledged. -/
  buffer : Buffer π
  /-- The position of the newest response, 0 before the first. -/
  lastPosition : Position
deriving DecidableEq

inductive PanicPayload
  | text (message : String)
  | other
deriving DecidableEq

def PanicPayload.message : PanicPayload → String
  | text message => message
  | other => "unknown panic payload"

/-- How a handler ends. -/
inductive Reply (π : Type)
  /-- Its position and transaction id are not used. -/
  | respond (response : Response π)
  | fail (fault : Fault)
  | panic (payload : PanicPayload)
deriving DecidableEq

/-- What a handler is asked, and where its response will go. -/
structure Invocation (β : Type) where
  /-- The device's request, its timeout lowered if a response waits for the device. -/
  request : Request β
  standing : Standing
  /-- How many responses the request acknowledges. -/
  acked : Nat
  /-- The position that the response will take. -/
  position : Position
deriving DecidableEq

def Invocation.isInitial {β : Type} (call : Invocation β) : Bool := call.request.isInitial

/-- How a request ended: the session it left, what the device gets, and what was decided. -/
structure Outcome (β π : Type) where
  session : Session β π
  result : Except SessionError (Response π)
  events : List Event

/-- What becomes of a request without the handler, or what is asked of the handler. -/
inductive Plan (β π : Type)
  | answer (outcome : Outcome β π)
  | invoke (call : Invocation β) (events : List Event)

/-- A handler with its own memory `σ`. -/
abbrev Handler (σ β π : Type) : Type := σ → Invocation β → Reply π × σ

namespace Session

variable {β π σ : Type}

def start : Session β π := { lastRequest? := none, buffer := .empty, lastPosition := .initial }

instance : Inhabited (Session β π) := ⟨start⟩

/-- How a request stands to this session. A request at position 0 starts over: it is neither a
retransmit nor the same as an earlier one. -/
def standing [DecidableEq β] (s : Session β π) (r : Request β) : Standing :=
  { position := r.position
    isInitial := r.isInitial
    isRetransmit := !r.isInitial && s.lastRequest?.any (·.position == r.position)
    acksOldest := s.buffer.oldest? == some r.position
    acksNewest := !s.lastPosition.isInitial && s.lastPosition == r.position
    isSame := !r.isInitial && s.lastRequest?.any (·.same r) }

/-- A request of known position ends: nothing counts as acknowledged unless it was answered. -/
def conclude (setup : Setup) (standing : Standing) (acked : Nat) (events : List Event)
    (session : Session β π) (result : Except SessionError (Response π)) : Outcome β π :=
  { session, result
    events := events ++ [.finished
      { acked := if result.isOk then acked else 0
        standing, userId := setup.userId, newPosition := session.buffer.oldest? }] }

/-- Serves the response after the ones that the request acknowledges, if there is one. The
request is remembered, so that it can be sent again. -/
def replay? (s : Session β π) (r : Request β) : Option (Session β π × Response π) :=
  (s.buffer.firstAfter r.position).map fun head =>
    ({ s with lastRequest? := some r, buffer := s.buffer.acknowledge r.position }, head)

/-- How many responses wait for the device once the request's acknowledgment is applied. -/
def pending (s : Session β π) (r : Request β) : Nat :=
  s.buffer.size - s.buffer.coveredBy r.position

/-- The request as the handler gets it. While a response is waiting for the device, the handler
may only take the least timeout. -/
def asked (setup : Setup) (s : Session β π) (r : Request β) : Request β :=
  if 0 < s.pending r then r.shrinkTimeout setup.limits.minTimeout else r

/-- What is told of a request before it is processed. -/
def notices (setup : Setup) (s : Session β π) (standing : Standing) (r : Request β) :
    List Event :=
  let asked := s.asked setup r
  (if standing.isRetransmit && !standing.isSame then [.bodyChanged r.position] else [])
    ++ (if asked.timeout ≠ r.timeout then [.timeoutShrunk r.timeout asked.timeout] else [])

/-- A request that is not owed anything goes to the handler, if there is room for a response and a
position for it. -/
def consult (setup : Setup) (s : Session β π) (standing : Standing) (r : Request β) : Plan β π :=
  let acked := s.buffer.coveredBy r.position
  let events := s.notices setup standing r
  if setup.limits.isFull (s.pending r) then
    let limit := setup.limits.maxBuffered.getD (s.pending r)
    .answer (conclude setup standing acked (events ++ [.bufferFull limit]) s
      (.error (.bufferFull limit)))
  else match s.lastPosition.next? with
    | none =>
      .answer (conclude setup standing acked events s (.error (.positionOverflow s.lastPosition)))
    | some position =>
      .invoke { request := s.asked setup r, standing, acked, position } events

/-- What a request is owed from the buffer. A retransmit with the body of the last request is tried
first; then, while responses wait for the device, so is any request with that body. -/
def owed? (s : Session β π) (standing : Standing) (r : Request β) :
    Option (Session β π × Response π) :=
  (if standing.isRetransmit && standing.isSame then s.replay? r else none) <|>
    if 0 < s.pending r && standing.isSame then s.replay? r else none

/-- What becomes of a request before the handler is asked. A request that is owed nothing from the
buffer has to be processed. -/
def plan [DecidableEq β] (setup : Setup) (s : Session β π) (r : Request β) : Plan β π :=
  let standing := s.standing r
  if !standing.isKnown then
    .answer
      { session := s
        result := .error (.unknownPosition r.position)
        events := [.unknownPosition r.position] }
  else match s.owed? standing r with
    | some (served, head) =>
      .answer (conclude setup standing (s.buffer.coveredBy r.position)
        [.replayed r.position head.position] served (.ok head))
    | none => s.consult setup standing r

/-- Takes a response into the stream: it is given its place and the transaction id of its request,
and the request's acknowledgment is applied. The device gets the oldest response that is left. -/
def commit (s : Session β π) (call : Invocation β) (response : Response π) :
    Session β π × Except SessionError (Response π) :=
  let placed := { response with position := call.position, txnId := call.request.txnId }
  match s.buffer.refusal? placed with
  | some newest => (s, .error (.outOfOrder call.position newest))
  | none =>
    let buffer := (s.buffer.add placed).acknowledge call.request.position
    ({ lastRequest? := some call.request, buffer, lastPosition := call.position },
      match buffer.head? with
      | some head => .ok head
      | none => .error (.handler (.internal (.plain "response buffer empty"))))

/-- What becomes of a request once the handler has replied. -/
def finish (setup : Setup) (s : Session β π) (call : Invocation β) (reply : Reply π) :
    Outcome β π :=
  match reply with
  | .respond response =>
    let (session, result) := s.commit call response
    conclude setup call.standing call.acked [] session result
  | .fail fault =>
    let error := HandlerError.ofFault fault
    conclude setup call.standing call.acked [.handlerFailed error.status error.cause.message] s
      (.error (.handler error))
  | .panic payload =>
    conclude setup call.standing call.acked [.handlerPanicked payload.message] s
      (.error (.handlerPanicked payload.message))

/-- One request, with the reply of the handler in case it is asked. -/
def step [DecidableEq β] (setup : Setup) (s : Session β π) (r : Request β) (reply : Reply π) :
    Outcome β π :=
  match s.plan setup r with
  | .answer outcome => outcome
  | .invoke call events =>
    let outcome := s.finish setup call reply
    { outcome with events := events ++ outcome.events }

/-- Requests one after another, each with the reply of the handler in case it is asked, and how
each of them ended. -/
def run [DecidableEq β] (setup : Setup) (s : Session β π) :
    List (Request β × Reply π) → List (Outcome β π)
  | [] => []
  | (r, reply) :: rest =>
    let outcome := s.step setup r reply
    outcome :: run setup outcome.session rest

/-- One request, with a handler that has a memory of its own. -/
def serve [DecidableEq β] (setup : Setup) (handler : Handler σ β π) (s : Session β π)
    (memory : σ) (r : Request β) : Outcome β π × σ :=
  match s.plan setup r with
  | .answer outcome => (outcome, memory)
  | .invoke call events =>
    let (reply, memory) := handler memory call
    let outcome := s.finish setup call reply
    ({ outcome with events := events ++ outcome.events }, memory)

/-! ### The cases of a plan -/

section
variable [DecidableEq β] {setup : Setup} {s : Session β π} {r : Request β}

theorem plan_of_unknown (h : (s.standing r).isKnown = false) :
    s.plan setup r = .answer
      { session := s
        result := .error (.unknownPosition r.position)
        events := [.unknownPosition r.position] } := by
  simp [plan, h]

omit [DecidableEq β] in
theorem replay?_eq_none_iff :
    s.replay? r = none ↔ s.buffer.size ≤ s.buffer.coveredBy r.position := by
  simp only [replay?, Buffer.firstAfter, Buffer.size, Option.map_eq_none_iff,
    Array.getElem?_eq_none_iff]
  omega

omit [DecidableEq β] in
theorem eq_of_mem_notices {standing : Standing} {event : Event}
    (h : event ∈ s.notices setup standing r) :
    event = .bodyChanged r.position ∨ ∃ asked, event = .timeoutShrunk r.timeout asked := by
  rcases List.mem_append.mp h with h | h <;> split at h
  · exact .inl (List.mem_singleton.mp h)
  · cases h
  · exact .inr ⟨_, List.mem_singleton.mp h⟩
  · cases h

omit [DecidableEq β] in
/-- The two attempts come to one: whatever has the body of the last request is owed what can be
replayed. -/
theorem owed?_eq (standing : Standing) :
    s.owed? standing r = if standing.isSame then s.replay? r else none := by
  unfold owed? pending
  cases standing.isSame with
  | false => simp
  | true =>
    by_cases h : s.buffer.size ≤ s.buffer.coveredBy r.position
    · simp [replay?_eq_none_iff.mpr h]
    · have hpos : 0 < s.buffer.size - s.buffer.coveredBy r.position := by omega
      cases standing.isRetransmit <;> simp [hpos]

/-- A request of known position with the body of the last one is served from the buffer, if a
response is left there. -/
theorem plan_of_replay (hk : (s.standing r).isKnown = true) (hs : (s.standing r).isSame = true)
    {served : Session β π} {head : Response π} (h : s.replay? r = some (served, head)) :
    s.plan setup r = .answer (conclude setup (s.standing r) (s.buffer.coveredBy r.position)
      [.replayed r.position head.position] served (.ok head)) := by
  simp [plan, owed?_eq, hk, hs, h]

theorem plan_of_consult (hk : (s.standing r).isKnown = true)
    (h : (s.standing r).isSame = true → s.replay? r = none) :
    s.plan setup r = s.consult setup (s.standing r) r := by
  cases hs : (s.standing r).isSame with
  | false => simp [plan, owed?_eq, hk, hs]
  | true => simp [plan, owed?_eq, hk, hs, h hs]

theorem step_of_answer {outcome : Outcome β π} (h : s.plan setup r = .answer outcome)
    (reply : Reply π) : s.step setup r reply = outcome := by
  simp [step, h]

theorem step_of_invoke {call : Invocation β} {events : List Event}
    (h : s.plan setup r = .invoke call events) (reply : Reply π) :
    s.step setup r reply =
      { s.finish setup call reply with
        events := events ++ (s.finish setup call reply).events } := by
  simp [step, h]

end

/-- Serving a request is a step with the reply that the handler gives, if it is asked. -/
theorem serve_eq_step [DecidableEq β] (setup : Setup) (handler : Handler σ β π)
    (s : Session β π) (memory : σ) (r : Request β) :
    ∃ reply, (s.serve setup handler memory r).1 = s.step setup r reply := by
  unfold serve step
  cases s.plan setup r with
  | answer outcome => exact ⟨.panic .other, rfl⟩
  | invoke call events => exact ⟨(handler memory call).1, rfl⟩

end Session
end LongPoll
