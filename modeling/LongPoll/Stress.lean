/-
# A run of requests that take turns with their bodies

The requests carry the newest position that any of them received, and bodies from a small stock in
turn. One after another they are a worker's share of a load; without a worker there are none.

Key definitions: `Stress.Config`, `Stress.Tally`, `Stress.run`.
-/
import LongPoll.Session

namespace LongPoll.Stress

structure Config where
  requestsPerThread : Nat
  threads : Nat
  timeout : Duration
  /-- How many bodies there are; 0 counts as 1. -/
  bodies : Nat
deriving DecidableEq

def Config.standard : Config :=
  { requestsPerThread := 200, threads := 4, timeout := .ofMillis 2, bodies := 2 }

structure Tally where
  succeeded : Nat
  failed : Nat
deriving DecidableEq

structure State (σ π : Type) where
  session : Session String π
  memory : σ
  /-- The newest position received. -/
  position : Position
  tally : Tally

variable {σ π : Type}

def request (config : Config) (position : Position) (i : Nat) : Request String :=
  { Request.fresh position ("filter-" ++ Decimal.text (i % max config.bodies 1)) with
    timeout := config.timeout }

def step (config : Config) (setup : Setup) (handler : Handler σ String π) (s : State σ π)
    (i : Nat) : State σ π :=
  let (outcome, memory) := s.session.serve setup handler s.memory (request config s.position i)
  match outcome.result with
  | .ok response =>
    { session := outcome.session, memory
      position := if s.position < response.position then response.position else s.position
      tally := { s.tally with succeeded := s.tally.succeeded + 1 } }
  | .error _ =>
    { session := outcome.session, memory, position := s.position
      tally := { s.tally with failed := s.tally.failed + 1 } }

/-- The requests of one worker, or of none. -/
def run (config : Config) (setup : Setup) (handler : Handler σ String π) (memory : σ) :
    State σ π :=
  let start : State σ π :=
    { session := .start, memory, position := .initial, tally := { succeeded := 0, failed := 0 } }
  let requests := if config.threads = 0 then 0 else config.requestsPerThread
  (List.range requests).foldl (step config setup handler) start

end LongPoll.Stress
