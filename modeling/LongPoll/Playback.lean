/-
# A connection played step by step

A stage holds a line of calls and a scripted handler. Its steps are requests and the other things
that can be done to a connection, and each answers with what happened because of it. A request
whose handler waits stays on the stage: at most one call is held in the handler, and at most one
other waits behind it.

A handler that waits for a cancellation is held only if its timeout is long; a shorter wait is over
within the step. One that waits at a gate is held until a step lets it go.

Key definitions: `Playback.Action`, `Playback.Answer`, `Playback.Stage`, `Playback.Report`,
`Playback.play`.
-/
import LongPoll.Line
import LongPoll.Script
import LongPoll.Snapshot

namespace LongPoll
namespace Playback

/-- A request to make: its position may be named by its part in the session. -/
structure Ask where
  place : Choice
  body : String
  /-- The transaction id, if it is not to be made from the position. -/
  txnId : Option String
  timeout : Duration

inductive Action
  | request (ask : Ask)
  | release
  | cancelInFlight
  | destroy
  /-- The connection is of no more use. -/
  | kill
  | clearScript
  /-- Only adds to the script. -/
  | push
  | info
  /-- Have at least `n` handler calls begun? -/
  | entered (n : Nat)

structure Step where
  /-- Cues added to the script before the step. -/
  script : List Cue
  action : Action

/-- What a call is held by, inside the handler. -/
inductive Hold
  | longPoll
  | gate
deriving DecidableEq

structure Info where
  id : ConnId
  userId : String
  limits : Limits
  alive : Bool
  destroyed : Bool
  callCount : Nat
  successCount : Nat
  /-- Not to be had while a call is in flight. -/
  lastPosition : Option Position
  /-- Not to be had while a call is in flight. -/
  bufferedLength : Option Nat

inductive Answer
  | nothing
  | result (result : Except SessionError (Response String))
  | parked (hold : Hold)
  /-- The call waits behind one that is held. -/
  | waiting
  /-- A call waits already, and nothing was done. -/
  | busy
  | flag (b : Bool)
  | count (n : Nat)
  | info (info : Info)
  | entered (count : Nat) (reached : Bool)

/-- What happened in a step besides its answer. -/
structure Log where
  events : List Event
  calls : List CallRecord
  /-- Answers to requests of earlier steps, or of a call that waited. -/
  done : List (Nat × Answer)

def Log.empty : Log := { events := [], calls := [], done := [] }

structure Held where
  call : Nat
  step : Nat
  invocation : Invocation String
  hold : Hold
  payload : String

structure Stage where
  setup : Setup
  line : Line String String
  script : Script
  held : Option Held
  /-- A call that waits behind the held one, and the step that made it. -/
  queued : Option (Nat × Nat)
  log : Log

structure Report where
  answer : Answer
  log : Log
  /-- Not to be had while a call is in flight. -/
  snapshot : Option Snapshot

/-- From here on a handler that waits for a cancellation is held. -/
def longWait : Duration := .ofSeconds 1

namespace Stage

def ofScript (setup : Setup) (script : Script) : Stage :=
  { setup, line := .start, script, held := none, queued := none, log := .empty }

/-- Makes a move in the line; one that cannot be made changes nothing. -/
def move (s : Stage) (m : Line.Move String String) : Stage :=
  match s.line.move? s.setup m with
  | some (line, events) => { s with line, log := { s.log with events := s.log.events ++ events } }
  | none => s

/-- The request of an earlier step is answered. -/
def note (s : Stage) (step : Nat) (answer : Answer) : Stage :=
  { s with log := { s.log with done := s.log.done ++ [(step, answer)] } }

/-- Call `i` is served, and goes; its answer is what it got. -/
def close (s : Stage) (i : Nat) : Answer × Stage :=
  let s := (s.move (.leave i)).move (.release i)
  match s.line.phase? i with
  | some (.closed result) => (.result result, s)
  | _ => (.nothing, s)

def finish (s : Stage) (i : Nat) (call : Invocation String) (reply : Reply String) :
    Answer × Stage :=
  let ended := CallRecord.ofCall call (s.line.isCancelled i) reply.succeeded
  let log := { s.log with calls := s.log.calls ++ [ended] }
  ({ s with script := s.script.record ended, log }.move (.reply i reply)).close i

/-- Call `i`, made in step `k`, takes the session. -/
def serve (s : Stage) (i k : Nat) : Answer × Stage :=
  let s := s.move (.acquire i)
  match s.line.phase? i with
  | some (.inHandler call) =>
    let (cue, script) := s.script.take call.request.body
    let hold (script : Script) (hold : Hold) (payload : String) : Answer × Stage :=
      (.parked hold,
        { s with script, held := some { call := i, step := k, invocation := call, hold, payload } })
    match cue with
    | .gate payload => hold script .gate payload
    | .longPoll payload =>
      if longWait ≤ call.request.timeout && !s.line.isCancelled i then
        hold script.enter .longPoll payload
      else { s with script := script.enter }.finish i call cue.ending
    | .reply reply => { s with script := script.enter }.finish i call reply
  | _ => s.close i

/-- The held call responds with its payload. -/
def finishHeld (s : Stage) (h : Held) : Stage :=
  let (answer, s) :=
    { s with held := none }.finish h.call h.invocation (.respond (.fresh h.payload))
  s.note h.step answer

/-- A held call that waits for its cancellation responds once it is cancelled. -/
def wake (s : Stage) : Stage :=
  match s.held with
  | some h => if h.hold = .longPoll ∧ s.line.isCancelled h.call then s.finishHeld h else s
  | none => s

/-- The call that waits, if any, takes its turn once no call is held. -/
def advance (s : Stage) : Stage :=
  match s.held, s.queued with
  | none, some (i, k) =>
    let (answer, s) := { s with queued := none }.serve i k
    s.note k answer
  | _, _ => s

/-- Lets the gated handler go, and then the call that waits; the answer is whether one was
held at a gate. -/
def release (s : Stage) : Bool × Stage :=
  match s.held with
  | some h =>
    if h.hold = .gate then (true, ({ s with script := s.script.enter }.finishHeld h).advance)
    else (false, s)
  | none => (false, s)

/-- Makes a move that cancels what is in flight. -/
def cancelBy (s : Stage) (m : Line.Move String String) : Stage := (s.move m).wake.advance

/-- A new request, made in step `k`: it preempts the one in flight, then waits behind it if that
is held at a gate. -/
def request (s : Stage) (k : Nat) (ask : Ask) : Answer × Stage :=
  if s.queued.isSome then (.busy, s)
  else
    let base := Request.scripted (ask.place.resolve s.line.session.snapshot) ask.body
    let r := { base with txnId := ask.txnId.getD base.txnId, timeout := ask.timeout }
    let i := s.line.calls.length
    let s := ((s.move (.arrive r)).move (.preempt i)).wake
    match s.held with
    | some _ => (.waiting, { s with queued := some (i, k) })
    | none => s.serve i k

def info (s : Stage) : Info :=
  let idle := s.held.isNone
  { id := s.setup.id, userId := s.setup.userId, limits := s.setup.limits
    alive := s.script.alive, destroyed := s.line.destroyed
    callCount := s.script.callCount, successCount := s.script.successCount
    lastPosition := if idle then some s.line.session.lastPosition else none
    bufferedLength := if idle then some s.line.session.buffer.size else none }

/-- Does the action of step `k`. -/
def act (s : Stage) (k : Nat) : Action → Answer × Stage
  | .request ask => s.request k ask
  | .release =>
    let (released, s) := s.release
    (.flag released, s)
  | .cancelInFlight => (.flag s.line.canCancel, s.cancelBy .cancelInFlight)
  | .destroy =>
    let s := s.cancelBy .destroy
    (.flag s.line.destroyed, s)
  | .kill =>
    let script := { s.script with alive := false }
    (.flag script.alive, { s with script })
  | .clearScript =>
    (.count s.script.queue.length, { s with script := { s.script with queue := [] } })
  | .push => (.nothing, s)
  | .info => (.info s.info, s)
  | .entered n => (.entered s.script.entered (n ≤ s.script.entered), s)

/-- What has happened since the log was last empty. -/
def report (s : Stage) (answer : Answer) : Report :=
  { answer, log := s.log
    snapshot := if s.held.isNone then some s.line.session.snapshot else none }

def step (s : Stage) (k : Nat) (step : Step) : Report × Stage :=
  let queue := s.script.queue ++ step.script
  let (answer, s) := { s with log := .empty, script := { s.script with queue } }.act k step.action
  (s.report answer, s)

/-- Brings up to `n` calls that are still in flight to their end. -/
def drain (s : Stage) : Nat → Stage
  | 0 => s
  | n + 1 =>
    match s.held with
    | some h =>
      if h.hold = .gate then s.release.2.drain n else (s.cancelBy .cancelInFlight).drain n
    | none => s

/-- Steps from number `k` on, and what each of them shows. -/
def steps (s : Stage) (k : Nat) : List Step → List Report × Stage
  | [] => ([], s)
  | next :: rest =>
    let (report, s) := s.step k next
    let (reports, s) := s.steps (k + 1) rest
    (report :: reports, s)

end Stage

/-- Plays the steps and then brings the calls that are left to their end: a held one, and one
behind it. -/
def play (setup : Setup) (script : Script) (steps : List Step) : List Report × Report :=
  let (reports, s) := (Stage.ofScript setup script).steps 0 steps
  (reports, ({ s with log := .empty }.drain 2).report .nothing)

end Playback
end LongPoll
