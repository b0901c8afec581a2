/-
# Calls in line for one session

Calls may overlap, but only one of them holds the session at a time. A call that arrives puts its
token into the slot of the request in flight, cancels the token that was there, waits for the
session, is served, gives the session up, and at last clears the slot if its token is still in it.
Each of these is a move of its own, so the moves of several calls can come in any order that the
session's one holder allows.

Key definitions: `Line`, `Line.Phase`, `Line.Move`, `Line.move?`, `Line.moves?`.
-/
import LongPoll.Session
import LongPoll.Cancel

namespace LongPoll
namespace Line

/-- How far a call has come. -/
inductive Phase (β π : Type)
  /-- Its token is in the slot; the token that was there has yet to be cancelled. -/
  | arrived (request : Request β) (replaced : Option Token)
  | waiting (request : Request β)
  /-- It holds the session, and the handler works on it. -/
  | inHandler (call : Invocation β)
  /-- It holds the session, and its result is known. -/
  | served (result : Except SessionError (Response π))
  /-- It has given the session up, and its token may still be in the slot. -/
  | left (result : Except SessionError (Response π))
  | closed (result : Except SessionError (Response π))

structure Call (β π : Type) where
  token : Token
  phase : Phase β π

/-- What can happen next. A number names a call by the order of arrival. -/
inductive Move (β π : Type)
  | arrive (request : Request β)
  /-- Cancels the token that the call replaced. -/
  | preempt (call : Nat)
  | acquire (call : Nat)
  | reply (call : Nat) (reply : Reply π)
  | leave (call : Nat)
  /-- Clears the slot, if the call's own token is in it. -/
  | release (call : Nat)
  | cancelInFlight
  /-- Cancels the token in the slot, and tells the handler that the connection is gone. -/
  | destroy

end Line

/-- A session and the calls in line for it. -/
structure Line (β π : Type) where
  session : Session β π
  holder : Option Nat
  /-- The token of the request in flight. -/
  slot : Option Token
  signals : Signals
  /-- Every call so far, in the order of arrival. -/
  calls : List (Line.Call β π)
  /-- The handler has been told that the connection is gone. -/
  destroyed : Bool

namespace Line

variable {β π : Type}

def start : Line β π :=
  { session := .start, holder := none, slot := none, signals := .none, calls := []
    destroyed := false }

def phase? (l : Line β π) (i : Nat) : Option (Phase β π) := l.calls[i]?.map (·.phase)

def isCancelled (l : Line β π) (i : Nat) : Bool :=
  l.calls[i]?.any fun call => l.signals.isCancelled call.token

def withPhase (l : Line β π) (i : Nat) (p : Phase β π) : Line β π :=
  { l with calls := l.calls.modify i fun call => { call with phase := p } }

def arrive (l : Line β π) (r : Request β) : Line β π :=
  let (token, signals) := l.signals.create
  { l with
    signals, slot := some token
    calls := l.calls ++ [{ token, phase := .arrived r l.slot }] }

/-- Cancels what call `i` replaced, unless it is cancelled already. -/
def preempt (l : Line β π) (i : Nat) (r : Request β) (replaced : Option Token) :
    Line β π × List Event :=
  let l := l.withPhase i (.waiting r)
  match replaced with
  | none => (l, [])
  | some old =>
    if l.signals.isCancelled old then (l, [])
    else ({ l with signals := l.signals.cancel old }, [.preempted])

/-- Call `i` takes the session, and its request is planned. -/
def acquire [DecidableEq β] (setup : Setup) (l : Line β π) (i : Nat) (r : Request β) :
    Line β π × List Event :=
  match l.session.plan setup r with
  | .answer outcome =>
    ({ l with session := outcome.session, holder := some i }.withPhase i (.served outcome.result),
      outcome.events)
  | .invoke call events => ({ l with holder := some i }.withPhase i (.inHandler call), events)

def reply (setup : Setup) (l : Line β π) (i : Nat) (call : Invocation β) (reply : Reply π) :
    Line β π × List Event :=
  let outcome := l.session.finish setup call reply
  ({ l with session := outcome.session }.withPhase i (.served outcome.result), outcome.events)

/-- Call `i` is over, and the slot is clear unless another call's token is in it. -/
def release (l : Line β π) (i : Nat) (token : Token)
    (result : Except SessionError (Response π)) : Line β π :=
  { l with slot := if l.slot = some token then none else l.slot }.withPhase i (.closed result)

/-- There is a token in the slot, and it is not cancelled yet. -/
def canCancel (l : Line β π) : Bool := l.slot.any fun token => !l.signals.isCancelled token

/-- Cancels the token in the slot; it stays there. -/
def cancelInFlight (l : Line β π) : Line β π :=
  match l.slot with
  | some token => { l with signals := l.signals.cancel token }
  | none => l

def destroy (l : Line β π) : Line β π := { l.cancelInFlight with destroyed := true }

/-- What a move makes of the line, and what is decided by it; nothing if the move cannot be made. -/
def move? [DecidableEq β] (setup : Setup) (l : Line β π) :
    Move β π → Option (Line β π × List Event)
  | .arrive r => some (l.arrive r, [])
  | .preempt i =>
    match l.phase? i with
    | some (.arrived r replaced) => some (l.preempt i r replaced)
    | _ => none
  | .acquire i =>
    match l.phase? i, l.holder with
    | some (.waiting r), none => some (l.acquire setup i r)
    | _, _ => none
  | .reply i reply =>
    match l.phase? i with
    | some (.inHandler call) => some (l.reply setup i call reply)
    | _ => none
  | .leave i =>
    match l.phase? i with
    | some (.served result) => some ({ l with holder := none }.withPhase i (.left result), [])
    | _ => none
  | .release i =>
    match l.calls[i]? with
    | some ⟨token, .left result⟩ => some (l.release i token result, [])
    | _ => none
  | .cancelInFlight => some (l.cancelInFlight, [])
  | .destroy => some (l.destroy, [])

/-- Moves one after another, and all that is decided by them. -/
def moves? [DecidableEq β] (setup : Setup) (l : Line β π) :
    List (Move β π) → Option (Line β π × List Event)
  | [] => some (l, [])
  | m :: rest => do
    let (next, events) ← l.move? setup m
    let (final, later) ← next.moves? setup rest
    return (final, events ++ later)

end Line
end LongPoll
