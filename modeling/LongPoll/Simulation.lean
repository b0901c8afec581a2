/-
# A simulated session over a lossy link

A client makes requests of a session whose handler counts its calls, and the report tells what the
session did to bring every position to the client once and in order. The report can be written as
text and as JSON.

Key definitions: `Simulation.Options`, `Simulation.Report`, `Simulation.Error`,
`Simulation.Report.members`, `Simulation.Report.text`, `Simulation.overLink`, `Simulation.run`.
-/
import LongPoll.Client
import LongPoll.Json

namespace LongPoll.Simulation

structure Options where
  requests : Nat
  lossRate : Binary64
  /-- The body changes every so many requests; 0 for never. -/
  changeEvery : Nat
  seed : UInt64
  /-- How many responses may be buffered; no bound if absent. -/
  maxBuffered : Option Nat

structure Report where
  requests : Nat
  lost : Nat
  errors : Nat
  handlerCalls : Nat
  /-- Responses served from the buffer. -/
  replays : Nat
  /-- Requests that came back with a new body. -/
  bodyChanges : Nat
  delivered : Nat
  lastPosition : Position
  buffered : Nat
  gapFree : Bool
deriving DecidableEq

inductive Error
  | invalidLossRate (rate : Binary64)
  /-- The client saw a position twice, or missed one. -/
  | notGapFree (gaps duplicates : Nat)
deriving DecidableEq

/-- Rates in messages have no exponent, and whole ones no point. -/
def plainRate : FloatStyle :=
  { positional := fun _ => true, wholePoint := false, exponentSign := false,
    tie := .up }

/-- Rates in the error's name are written without an exponent from 0.0001 to below 10^16, and
whole ones keep a zero after the point. -/
def namedRate : FloatStyle :=
  { positional := fun power => -4 ≤ power && power ≤ 15, wholePoint := true, exponentSign := false,
    tie := .up }

def Error.message : Error → String
  | invalidLossRate rate => "loss rate must be between 0 and 1, got " ++ plainRate.text rate
  | notGapFree gaps duplicates =>
    "delivery was not gap-free: " ++ Decimal.text gaps ++ " gaps, " ++ Decimal.text duplicates
      ++ " duplicates"

/-- The error as its name and what it holds. -/
def Error.name : Error → String
  | invalidLossRate rate => "InvalidLossRate(" ++ namedRate.text rate ++ ")"
  | notGapFree gaps duplicates =>
    "NotGapFree \x7b gaps: " ++ Decimal.text gaps ++ ", duplicates: " ++ Decimal.text duplicates
      ++ " \x7d"

/-- The counts under their names, in the order of the report. -/
def Report.members (r : Report) : List (String × Json) :=
  [("requests", .int r.requests), ("lost", .int r.lost), ("errors", .int r.errors),
   ("handler_calls", .int r.handlerCalls), ("replays", .int r.replays),
   ("body_changes", .int r.bodyChanges), ("delivered", .int r.delivered),
   ("last_position", .int r.lastPosition.val), ("buffered", .int r.buffered),
   ("gap_free", .bool r.gapFree)]

/-- The report over several lines, for people. -/
def Report.text (r : Report) : String :=
  let row (name : String) (n : Nat) : String := name ++ Decimal.text n ++ "\n"
  "Simulation Report\n=================\n\n"
    ++ row "Requests sent:      " r.requests
    ++ row "Responses lost:     " r.lost
    ++ row "Errors:             " r.errors
    ++ "\n"
    ++ row "Handler calls:      " r.handlerCalls
    ++ row "Replays:            " r.replays
    ++ row "Body changes:       " r.bodyChanges
    ++ "\n"
    ++ row "Positions delivered: " r.delivered
    ++ row "Last position:       " r.lastPosition.val
    ++ row "Still buffered:      " r.buffered
    ++ "\n"
    ++ (if r.gapFree then "✓ Delivery was gap-free\n" else "✗ Delivery had gaps or duplicates\n")

/-- Answers each call with its number. -/
def counter : Handler Nat String Nat := fun calls _ => (.respond (.fresh (calls + 1)), calls + 1)

def setup (options : Options) : Setup :=
  { id := ⟨"SIMULATED"⟩, userId := "@simulator:localhost"
    limits := { Limits.standard with maxBuffered := options.maxBuffered } }

variable {ρ : Type}

/-- The client, the session and the link once all requests are made. -/
def rig (options : Options) (draw : Link ρ) (link : ρ) : Rig Nat ρ Nat :=
  (Rig.start (.start options.changeEvery ClientConfig.standard.timeout) 0 link).run
    (setup options) counter draw options.requests

def report (rig : Rig Nat ρ Nat) : Report :=
  let client := rig.client.report
  { requests := client.requests, lost := client.lost, errors := client.errors
    handlerCalls := rig.memory, replays := rig.tally.replays, bodyChanges := rig.tally.bodyChanges
    delivered := client.received.length, lastPosition := rig.session.lastPosition
    buffered := rig.session.buffer.size, gapFree := client.isGapFree }

def overLink (options : Options) (draw : Link ρ) (link : ρ) : Except Error Report :=
  let rig := rig options draw link
  let r := report rig
  if r.gapFree then .ok r
  else .error (.notGapFree rig.client.report.gaps rig.client.report.duplicates)

/-- A simulation over the random link of the seed. -/
def run (options : Options) : Except Error Report :=
  if options.lossRate.isUnit then
    overLink options RandomLink.draw (.ofSeed (.ofNumber options.lossRate) options.seed)
  else .error (.invalidLossRate options.lossRate)

end LongPoll.Simulation
