/-
# What can go wrong

A handler may fail with any fault. One that is a handler error keeps its status code; any other is
tagged as internal. A session refuses a request with an error of its own, which can be tagged with
a status in turn. Each fault has a message, and a chain of sources that leads to its root cause.

Key definitions: `Fault`, `HandlerError`, `SessionError`, `Fault.message`, `Fault.sources`,
`HandlerError.ofFault`, `SessionError.status`, `SessionError.toHandlerError`.
-/
import LongPoll.Position

namespace LongPoll

mutual

/-- Anything that a handler may fail with. -/
inductive Fault
  /-- An error that is only its text. -/
  | plain (text : String)
  | handler (error : HandlerError)
  | session (error : SessionError)
  /-- An input or output error around another fault: it reads as that fault and has its source. -/
  | io (inner : Fault)
  | position (text : String)

/-- A fault with the status code to answer with. -/
inductive HandlerError
  | tagged (status : UInt16) (cause : Fault)

/-- Why a session did not answer a request. -/
inductive SessionError
  | unknownPosition (position : Position)
  /-- The device acknowledges too little: `limit` responses wait for it. -/
  | bufferFull (limit : Nat)
  | handler (error : HandlerError)
  | handlerPanicked (message : String)
  | positionOverflow (last : Position)
  /-- A response came at or before the newest buffered position. -/
  | outOfOrder (position newest : Position)

end

deriving instance DecidableEq for Fault, HandlerError, SessionError

instance : Inhabited Fault := ⟨.plain ""⟩

namespace Status

def badRequest : UInt16 := 400
def tooManyRequests : UInt16 := 429
def internal : UInt16 := 500

/-- The fault is the client's: 4xx. -/
def isClient (status : UInt16) : Bool := 400 ≤ status && status < 500

/-- The fault is the server's: 5xx. -/
def isServer (status : UInt16) : Bool := 500 ≤ status && status < 600

end Status

namespace HandlerError

def status : HandlerError → UInt16
  | tagged status _ => status

def cause : HandlerError → Fault
  | tagged _ cause => cause

/-- A request that the handler finds wrong. -/
def badRequest (text : String) : HandlerError := tagged Status.badRequest (.plain text)

/-- A fault with no status of its own. -/
def internal (cause : Fault) : HandlerError := tagged Status.internal cause

/-- A handler error stays what it is; any other fault is internal. A handler error deeper inside
the fault is not looked for. -/
def ofFault : Fault → HandlerError
  | .handler error => error
  | fault => internal fault

end HandlerError

def outOfOrderMessage (position newest : Position) : String :=
  "response position " ++ position.text ++ " does not follow buffered position " ++ newest.text

mutual

def Fault.message : Fault → String
  | .plain text => text
  | .handler error => error.message
  | .session error => error.message
  | .io inner => inner.message
  | .position text => Position.parseMessage text

def HandlerError.message : HandlerError → String
  | .tagged status cause => cause.message ++ " (status " ++ Decimal.text status.toNat ++ ")"

def SessionError.message : SessionError → String
  | .unknownPosition position => "unknown position: " ++ position.text
  | .bufferFull limit =>
    "response buffer full: " ++ Decimal.text limit ++ " responses awaiting acknowledgment"
  | .handler error => "handler failed: " ++ error.message
  | .handlerPanicked message => "handler panicked: " ++ message
  | .positionOverflow last => "position space exhausted after " ++ last.text
  | .outOfOrder position newest => outOfOrderMessage position newest

end

mutual

/-- The faults behind this one, from its own source down to the root. -/
def Fault.sources : Fault → List Fault
  | .plain _ => []
  | .handler error => error.sources
  | .session error => error.sources
  | .io inner => inner.sources
  | .position _ => []

def HandlerError.sources : HandlerError → List Fault
  | .tagged _ cause => cause :: cause.sources

def SessionError.sources : SessionError → List Fault
  | .handler error => .handler error :: error.sources
  | .unknownPosition _ | .bufferFull _ | .handlerPanicked _ | .positionOverflow _
  | .outOfOrder _ _ => []

end

namespace SessionError

def status : SessionError → UInt16
  | unknownPosition _ => Status.badRequest
  | bufferFull _ => Status.tooManyRequests
  | handler error => error.status
  | handlerPanicked _ | positionOverflow _ | outOfOrder _ _ => Status.internal

/-- The error with its status code, as a handler would report it. -/
def toHandlerError : SessionError → HandlerError
  | handler error => error
  | error => .tagged error.status (.plain error.message)

end SessionError
end LongPoll
