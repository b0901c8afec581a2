/-
# A view of a session, and positions named by their part in it

Key definitions: `Snapshot`, `Session.snapshot`, `Choice`, `Choice.resolve`.
-/
import LongPoll.Session

namespace LongPoll

/-- What a session shows of itself: positions only. -/
structure Snapshot where
  lastPosition : Position
  /-- The position of the last answered request. -/
  lastClientPosition : Option Position
  /-- The positions of the buffered responses, oldest first. -/
  buffered : List Position
deriving DecidableEq

def Session.snapshot {β π : Type} (s : Session β π) : Snapshot :=
  { lastPosition := s.lastPosition
    lastClientPosition := s.lastRequest?.map (·.position)
    buffered := s.buffer.positions }

/-- A position named by the part that it plays in a session. -/
inductive Choice
  | initial
  | newest
  /-- The oldest buffered response, or the newest response if nothing is buffered. -/
  | oldest
  /-- The last answered request's, or 0 before the first. -/
  | lastRequest
  | arbitrary (position : Position)
deriving DecidableEq

def Choice.resolve (view : Snapshot) : Choice → Position
  | initial => .initial
  | newest => view.lastPosition
  | oldest => view.buffered.head?.getD view.lastPosition
  | lastRequest => view.lastClientPosition.getD .initial
  | arbitrary position => position

end LongPoll
