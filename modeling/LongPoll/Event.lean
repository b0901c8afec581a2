/-
# What a connection decided

Each decision about a request is an event: how the request stands to the session's history, and
what became of it.

Key definitions: `Standing`, `Standing.isKnown`, `Event`, `Event.Finish`.
-/
import LongPoll.Fault
import LongPoll.Duration

namespace LongPoll

/-- How a request stands to the history of the session that it reaches. -/
structure Standing where
  position : Position
  isInitial : Bool
  /-- It carries the position of the last answered request. -/
  isRetransmit : Bool
  acksOldest : Bool
  acksNewest : Bool
  /-- It carries the body of the last answered request. -/
  isSame : Bool
deriving DecidableEq

/-- The position is one that the device was told about, or that of its last request. -/
def Standing.isKnown (s : Standing) : Bool :=
  s.isInitial || s.acksNewest || s.acksOldest || s.isRetransmit

/-- How a request of known position ended. -/
structure Event.Finish where
  /-- How many responses its acknowledgment dropped. -/
  acked : Nat
  standing : Standing
  userId : String
  /-- The position of the oldest response still buffered. -/
  newPosition : Option Position
deriving DecidableEq

/-- Something a connection decided. -/
inductive Event
  | unknownPosition (position : Position)
  /-- The buffered response at `replayed` was given out without asking the handler. -/
  | replayed (position replayed : Position)
  /-- The device came back to its last position with another body. -/
  | bodyChanged (position : Position)
  /-- The timeout was lowered because a response is waiting for the device. -/
  | timeoutShrunk (before after : Duration)
  | bufferFull (limit : Nat)
  /-- A newer request cancelled the one in flight. -/
  | preempted
  | handlerFailed (status : UInt16) (message : String)
  | handlerPanicked (message : String)
  | finished (finish : Event.Finish)
deriving DecidableEq

/-- Who listens to a connection. -/
inductive Observer
  | recording
  | tracing
  | silent
deriving DecidableEq

def Observer.keep : Observer → List Event → List Event
  | .silent, _ => []
  | _, events => events

end LongPoll
