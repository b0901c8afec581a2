/-
# A handler that follows a script

The script is a queue of cues, one for each call. When the queue is empty, the handler answers
with the body of the request and the number of the call, after waiting if it was made to wait. It
keeps a record of every call.

Key definitions: `Cue`, `CallRecord`, `Script`, `Script.take`, `Script.record`, `Script.handler`.
-/
import LongPoll.Session

namespace LongPoll

/-- What the handler does in one call. -/
inductive Cue
  | reply (reply : Reply String)
  /-- Waits until the request is cancelled or its timeout is over, then responds. -/
  | longPoll (payload : String)
  /-- Waits until it is let go, cancelled or not, then responds. -/
  | gate (payload : String)

namespace Cue

def respond (payload : String) : Cue := reply (.respond (.fresh payload))

def fail (status : UInt16) : Cue :=
  reply (.fail (.handler (.tagged status (.plain "scripted failure"))))

/-- Fails with an error that is only its text. -/
def failUntagged (text : String) : Cue := reply (.fail (.plain text))

def panic (message : String) : Cue := reply (.panic (.text message))

/-- How the handler ends, once it has waited. -/
def ending : Cue → Reply String
  | reply r => r
  | longPoll payload | gate payload => .respond (.fresh payload)

end Cue

/-- A call that the handler has ended. -/
structure CallRecord where
  position : Position
  body : String
  /-- The timeout that the handler was given. -/
  timeout : Duration
  isInitial : Bool
  /-- The request was cancelled when the handler ended. -/
  cancelled : Bool
  succeeded : Bool
deriving DecidableEq

def CallRecord.ofCall (call : Invocation String) (cancelled succeeded : Bool) : CallRecord :=
  { position := call.request.position, body := call.request.body
    timeout := call.request.timeout, isInitial := call.isInitial, cancelled, succeeded }

structure Script where
  queue : List Cue
  /-- With an empty queue, the handler waits before it responds. -/
  longPolls : Bool
  entered : Nat
  /-- Calls ended so far, newest first. -/
  ended : List CallRecord
  alive : Bool

def Reply.succeeded {π : Type} : Reply π → Bool
  | .respond _ => true
  | .fail _ | .panic _ => false

namespace Script

def ofQueue (queue : List Cue) (longPolls : Bool) : Script :=
  { queue, longPolls, entered := 0, ended := [], alive := true }

/-- The cue of a call whose number is one more than the calls begun. -/
def take (s : Script) (body : String) : Cue × Script :=
  match s.queue with
  | cue :: queue => (cue, { s with queue })
  | [] =>
    let payload := body ++ "@" ++ Decimal.text (s.entered + 1)
    (if s.longPolls then .longPoll payload else .respond payload, s)

def enter (s : Script) : Script := { s with entered := s.entered + 1 }

def record (s : Script) (call : CallRecord) : Script := { s with ended := call :: s.ended }

/-- Calls ended so far, oldest first. -/
def calls (s : Script) : List CallRecord := s.ended.reverse

def callCount (s : Script) : Nat := s.ended.length

def successCount (s : Script) : Nat := s.ended.countP (·.succeeded)

/-- The script where calls never overlap: no request is cancelled, and each wait comes to its
end within the call. -/
def handler : Handler Script String String := fun s call =>
  let (cue, s) := s.take call.request.body
  (cue.ending, s.enter.record (.ofCall call false cue.ending.succeeded))

end Script

/-- A request as a script's caller makes it: its transaction id tells the position. -/
def Request.scripted (position : Position) (body : String) : Request String :=
  { Request.fresh position body with txnId := "txn-" ++ position.text }

end LongPoll
