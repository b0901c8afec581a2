/-
# Limits of a connection

Key definitions: `Limits`, `Limits.isFull`.
-/
import LongPoll.Duration

namespace LongPoll

/-- How long a device with an undelivered response may be kept waiting, and how many responses may
wait for it. -/
structure Limits where
  minTimeout : Duration
  /-- No bound if absent. -/
  maxBuffered : Option Nat
deriving DecidableEq

namespace Limits

def defaultMaxBuffered : Nat := 64

def standard : Limits := { minTimeout := .ofMillis 1, maxBuffered := some defaultMaxBuffered }

instance : Inhabited Limits := ⟨standard⟩

def withMinTimeout (l : Limits) (d : Duration) : Limits := { l with minTimeout := d }

def withMaxBuffered (l : Limits) (n : Nat) : Limits := { l with maxBuffered := some n }

def unbounded (l : Limits) : Limits := { l with maxBuffered := none }

/-- No room is left beside `len` buffered responses. -/
def isFull (l : Limits) (len : Nat) : Bool := l.maxBuffered.any (· ≤ len)

end Limits
end LongPoll
