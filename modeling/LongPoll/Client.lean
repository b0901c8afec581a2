/-
# A client on a lossy link

The client echoes the last position that it received, so it sends the same request again when the
response was lost or an error came back. Every so often it changes the body of its requests. It
keeps a report of what it received.

Key definitions: `ClientReport`, `ClientReport.delivered`, `ClientReport.isGapFree`, `Client`,
`Client.send`, `Client.receive`, `Rig`, `Rig.step`, `Rig.run`.
-/
import LongPoll.Loss
import LongPoll.Session

namespace LongPoll

/-- What a client counts. -/
structure ClientReport where
  requests : Nat
  lost : Nat
  errors : Nat
  /-- Responses received at a position that is not new. -/
  duplicates : Nat
  /-- Responses received after a skipped position. -/
  gaps : Nat
  /-- The positions received, newest first. -/
  received : List Position
deriving DecidableEq

namespace ClientReport

def empty : ClientReport :=
  { requests := 0, lost := 0, errors := 0, duplicates := 0, gaps := 0, received := [] }

def delivered (r : ClientReport) : List Position := r.received.reverse

/-- Every position arrived once and in order, from 1 on. -/
def isGapFree (r : ClientReport) : Bool :=
  r.duplicates == 0 && r.gaps == 0
    && r.delivered.map (·.val) == List.range' 1 r.received.length

end ClientReport

structure ClientConfig where
  lossRate : Binary64
  /-- The body changes at each request whose number is a multiple of this; 0 for never. -/
  changeEvery : Nat
  timeout : Duration
  seed : UInt64

namespace ClientConfig

def standard : ClientConfig :=
  { lossRate := .ofDecimal false 2 (-1), changeEvery := 0, timeout := .ofMillis 1, seed := 0 }

def link (c : ClientConfig) : RandomLink := .ofSeed (.ofNumber c.lossRate) c.seed

end ClientConfig

/-- A client that sends one request at a time. -/
structure Client where
  changeEvery : Nat
  timeout : Duration
  /-- The last position received. -/
  position : Position
  bodyVersion : Nat
  report : ClientReport
deriving DecidableEq

namespace Client

def start (changeEvery : Nat) (timeout : Duration) : Client :=
  { changeEvery, timeout, position := .initial, bodyVersion := 0, report := .empty }

def body (c : Client) : String := "filter-" ++ Decimal.text c.bodyVersion

def send (c : Client) : Request String × Client :=
  let requests := c.report.requests + 1
  let changes := 0 < c.changeEvery && requests % c.changeEvery == 0
  let c := { c with
    bodyVersion := if changes then c.bodyVersion + 1 else c.bodyVersion
    report := { c.report with requests } }
  ({ position := c.position, body := c.body, txnId := "txn-" ++ Decimal.text requests
     timeout := c.timeout }, c)

/-- A response at position `p` comes through. -/
def accept (c : Client) (p : Position) : Client :=
  if p ≤ c.position then
    { c with report := { c.report with duplicates := c.report.duplicates + 1 } }
  else
    { c with
      position := p
      report := { c.report with
        gaps := if p = c.position.next then c.report.gaps else c.report.gaps + 1
        received := p :: c.report.received } }

theorem delivered_accept (c : Client) (p : Position) :
    (c.accept p).report.delivered =
      if p ≤ c.position then c.report.delivered else c.report.delivered ++ [p] := by
  unfold accept
  split <;> simp [ClientReport.delivered]

/-- What comes back on the link: a response may be lost on its way, an error never is. -/
def receive {π σ : Type} (draw : Link σ) (c : Client) (link : σ)
    (result : Except SessionError (Response π)) : Client × σ :=
  match result with
  | .error _ => ({ c with report := { c.report with errors := c.report.errors + 1 } }, link)
  | .ok response =>
    match draw link with
    | (true, link) => ({ c with report := { c.report with lost := c.report.lost + 1 } }, link)
    | (false, link) => (c.accept response.position, link)

end Client

/-- How many responses were given out again, and how many requests came back with a new body. -/
structure Tally where
  replays : Nat
  bodyChanges : Nat
deriving DecidableEq

namespace Tally

def zero : Tally := { replays := 0, bodyChanges := 0 }

def count (t : Tally) (events : List Event) : Tally :=
  { replays := t.replays + events.countP fun e => e matches .replayed _ _
    bodyChanges := t.bodyChanges + events.countP fun e => e matches .bodyChanged _ }

end Tally

/-- A client and a session with a link between them: the handler has the memory `σ`, and the link
the memory `ρ`. -/
structure Rig (σ ρ π : Type) where
  client : Client
  session : Session String π
  memory : σ
  link : ρ
  tally : Tally

namespace Rig

variable {σ ρ π : Type}

def start (client : Client) (memory : σ) (link : ρ) : Rig σ ρ π :=
  { client, session := .start, memory, link, tally := .zero }

/-- One request of the client, and what comes back. -/
def step (setup : Setup) (handler : Handler σ String π) (draw : Link ρ) (rig : Rig σ ρ π) :
    Rig σ ρ π :=
  let ⟨client, session, memory, link, tally⟩ := rig
  let (request, client) := client.send
  let (outcome, memory) := session.serve setup handler memory request
  let (client, link) := client.receive draw link outcome.result
  { client, session := outcome.session, memory, link, tally := tally.count outcome.events }

def run (setup : Setup) (handler : Handler σ String π) (draw : Link ρ) (rig : Rig σ ρ π) :
    Nat → Rig σ ρ π
  | 0 => rig
  | n + 1 => (rig.step setup handler draw).run setup handler draw n

/-- The rig as it stands after each of several runs. -/
def runs (setup : Setup) (handler : Handler σ String π) (draw : Link ρ) (rig : Rig σ ρ π) :
    List Nat → List (Rig σ ρ π)
  | [] => []
  | n :: rest =>
    let rig := rig.run setup handler draw n
    rig :: rig.runs setup handler draw rest

end Rig
end LongPoll
