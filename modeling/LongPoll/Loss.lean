/-
# Losing responses

A link says of each response whether it is lost. It may be any rule with a memory of its own; the
random link draws a number for each response and loses it if the number is below a threshold.

Key definitions: `Link`, `LossRate`, `LossRate.ofNumber`, `RandomLink`, `RandomLink.draw`.
-/
import LongPoll.Decimal.Binary64
import LongPoll.Random.ChaCha

namespace LongPoll

/-- Says whether the next response is lost. -/
abbrev Link (σ : Type) : Type := σ → Bool × σ

/-- How often a random link loses a response. -/
inductive LossRate
  /-- Every time, without drawing a number. -/
  | always
  /-- When the number drawn, of 64 bits, is below the threshold. -/
  | below (threshold : Nat)
deriving DecidableEq

/-- The rate of a probability; what is outside of [0, 1] is moved to its nearer end. -/
def LossRate.ofNumber : Binary64 → LossRate
  | .nan => below 0
  | .infinite negative => if negative then below 0 else always
  | .finite negative significand exponent =>
    let threshold := Binary64.scaledFloor significand exponent 64
    if negative then below 0 else if threshold < Nat.pow 2 64 then below threshold else always

structure RandomLink where
  rate : LossRate
  stream : ChaCha.Stream
deriving DecidableEq

namespace RandomLink

def ofSeed (rate : LossRate) (seed : UInt64) : RandomLink :=
  { rate, stream := .ofKey (Seed.key seed) }

def draw : Link RandomLink := fun link =>
  match link.rate with
  | .always => (true, link)
  | .below threshold =>
    let (n, stream) := link.stream.draw
    (n < threshold, { link with stream })

end RandomLink
end LongPoll
