/-
# Requests and responses

A device asks for what comes after a position, with a body that says what it wants to hear about;
the answer carries its own position and the transaction id of the request that it was made for.
Nothing here looks into a body, except to ask whether two of them are equal, or into a payload.

Key definitions: `Request`, `Request.fresh`, `Request.same`, `Request.shrinkTimeout`, `Response`,
`Response.fresh`, `ConnId`.
-/
import LongPoll.Duration

namespace LongPoll

/-- The device at the far end of a connection. -/
structure ConnId where
  deviceId : String
deriving DecidableEq, Inhabited

/-- What a device asks for. -/
structure Request (β : Type) where
  /-- The last position the device has seen. -/
  position : Position
  body : β
  /-- The device's own name for this request. -/
  txnId : String
  timeout : Duration
deriving DecidableEq

/-- What a device is given. -/
structure Response (π : Type) where
  position : Position
  /-- The transaction id of the request that it was made for. -/
  txnId : String
  payload : π
deriving DecidableEq

namespace Request

variable {β : Type}

def defaultTimeout : Duration := .ofSeconds 30

/-- A request with no transaction id and the default timeout. -/
def fresh (position : Position) (body : β) : Request β :=
  { position, body, txnId := "", timeout := defaultTimeout }

def isInitial (r : Request β) : Bool := r.position.isInitial

/-- Both requests carry the same body, whatever else they carry. -/
def same [DecidableEq β] (r s : Request β) : Bool := r.body == s.body

/-- The request with its timeout lowered to `limit` if it was longer. -/
def shrinkTimeout (r : Request β) (limit : Duration) : Request β :=
  if limit < r.timeout then { r with timeout := limit } else r

end Request

/-- A response that has no place in the stream yet. -/
def Response.fresh {π : Type} (payload : π) : Response π :=
  { position := .initial, txnId := "", payload }

end LongPoll
