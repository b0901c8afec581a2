/-
# What a session does not look at

A session goes by positions and by whether two bodies are equal; a payload it only hands on. So let
`g` be a map of bodies that tells any two apart, and `f` any map of payloads. Two sessions are alike
if `g` and `f` take what one remembers to what the other does, positions being the same
(`Session.Alike`): transaction ids and timeouts may differ. Alike sessions with the same bound on
their buffers decide the same about alike requests (`Session.Alike.plan`), and with alike replies
they end up alike and give alike results (`Session.Alike.finish`). By induction two whole runs
look alike, as far as their handlers end alike, call by call.

Key definitions: `Request.Alike`, `Response.Alike`, `Reply.Alike`, `ResultAlike`, `Session.Alike`,
`Handler.scripted`, `Session.serveAll`.
Key theorems: `Session.Alike.standing`, `Session.Alike.plan`, `Session.Alike.finish`,
`Session.Alike.serve`, `Session.Alike.serveAll`, `runs_alike`.
-/
import LongPoll.Proofs.Tracking
import LongPoll.Snapshot
import Mathlib.Data.List.Forall2

namespace LongPoll

variable {β γ π ρ : Type}

/-! ### Messages -/

/-- Both ask from one position, and `g` takes the one body to the other. -/
structure Request.Alike (g : β → γ) (r : Request β) (r' : Request γ) : Prop where
  position : r.position = r'.position
  body : g r.body = r'.body

/-- Both have one position, and `f` takes the one payload to the other. -/
structure Response.Alike (f : π → ρ) (x : Response π) (x' : Response ρ) : Prop where
  position : x.position = x'.position
  payload : f x.payload = x'.payload

/-- Both read the same and have one status code. -/
structure HandlerError.Alike (error error' : HandlerError) : Prop where
  status : error.status = error'.status
  message : error.message = error'.message

/-- Both handlers end in the same way. The position and the transaction id of a response do not
count. -/
inductive Reply.Alike (f : π → ρ) : Reply π → Reply ρ → Prop
  | respond {x : Response π} {x' : Response ρ} (h : f x.payload = x'.payload) :
    Alike f (.respond x) (.respond x')
  | fail {fault fault' : Fault}
    (h : (HandlerError.ofFault fault).Alike (HandlerError.ofFault fault')) :
    Alike f (.fail fault) (.fail fault')
  | panic {payload payload' : PanicPayload} (h : payload.message = payload'.message) :
    Alike f (.panic payload) (.panic payload')

/-- Both devices get alike responses, or the same error. -/
inductive ResultAlike (f : π → ρ) :
    Except SessionError (Response π) → Except SessionError (Response ρ) → Prop
  | ok {x : Response π} {x' : Response ρ} (h : x.Alike f x') : ResultAlike f (.ok x) (.ok x')
  | error (error : SessionError) : ResultAlike f (.error error) (.error error)
  | handler {error error' : HandlerError} (h : error.Alike error') :
    ResultAlike f (.error (.handler error)) (.error (.handler error'))

theorem Response.Alike.positions {f : π → ρ} {l : List (Response π)} {l' : List (Response ρ)}
    (h : List.Forall₂ (Response.Alike f) l l') : l.map (·.position) = l'.map (·.position) := by
  induction h with
  | nil => rfl
  | cons hx _ ih => rw [List.map_cons, List.map_cons, hx.position, ih]

theorem any_eq_of_rel {α α' : Type} {R : α → α' → Prop} {o : Option α} {o' : Option α'}
    (h : Option.Rel R o o') {P : α → Bool} {P' : α' → Bool} (hP : ∀ a a', R a a' → P a = P' a') :
    o.any P = o'.any P' := by
  cases h with
  | none => rfl
  | some ha => exact hP _ _ ha

/-! ### Buffers -/

namespace Buffer

/-- Alike responses in the same order. -/
def Alike (f : π → ρ) (b : Buffer π) (b' : Buffer ρ) : Prop :=
  List.Forall₂ (Response.Alike f) b.responses b'.responses

namespace Alike

variable {f : π → ρ} {b : Buffer π} {b' : Buffer ρ} (hb : b.Alike f b')

theorem empty : (empty : Buffer π).Alike f empty := .nil

include hb

theorem positions : b.positions = b'.positions := Response.Alike.positions hb

theorem size : b.size = b'.size := by
  rw [size_eq_length, size_eq_length]
  exact hb.length_eq

theorem coveredBy (p : Position) : b.coveredBy p = b'.coveredBy p := by
  rw [coveredBy_eq_positions, coveredBy_eq_positions, hb.positions]

theorem oldest? : b.oldest? = b'.oldest? := by
  rw [oldest?_eq_positions, oldest?_eq_positions, hb.positions]

theorem refusal? {x : Response π} {x' : Response ρ} (hx : x.position = x'.position) :
    b.refusal? x = b'.refusal? x' := by
  rw [Buffer.refusal?, Buffer.refusal?, newest?_eq_positions, newest?_eq_positions, hb.positions,
    hx]

theorem head? : Option.Rel (Response.Alike f) b.head? b'.head? := by
  rw [Alike] at hb
  rw [head?_eq, head?_eq]
  generalize b.responses = l, b'.responses = l' at hb ⊢
  cases hb with
  | nil => exact .none
  | cons hx _ => exact .some hx

theorem acknowledge (p : Position) : (b.acknowledge p).Alike f (b'.acknowledge p) := by
  rw [Alike, Buffer.acknowledge, Buffer.acknowledge, responses_drop, responses_drop, hb.coveredBy]
  exact List.forall₂_drop _ hb

theorem firstAfter (p : Position) :
    Option.Rel (Response.Alike f) (b.firstAfter p) (b'.firstAfter p) := by
  rw [firstAfter_eq_head?, firstAfter_eq_head?]
  exact (hb.acknowledge p).head?

theorem add {x : Response π} {x' : Response ρ} (hx : x.Alike f x') :
    (b.add x).Alike f (b'.add x') := by
  rw [Alike, responses_add, responses_add]
  exact List.rel_append hb (.cons hx .nil)

end Alike
end Buffer

/-! ### Sessions -/

/-- Both remember alike requests and alike responses, and have one last position. -/
structure Session.Alike (g : β → γ) (f : π → ρ) (s : Session β π) (s' : Session γ ρ) : Prop where
  lastRequest : Option.Rel (Request.Alike g) s.lastRequest? s'.lastRequest?
  buffer : s.buffer.Alike f s'.buffer
  lastPosition : s.lastPosition = s'.lastPosition

/-- Both left alike sessions and gave alike results. -/
structure Outcome.Alike (g : β → γ) (f : π → ρ) (o : Outcome β π) (o' : Outcome γ ρ) : Prop where
  session : o.session.Alike g f o'.session
  result : ResultAlike f o.result o'.result

/-- Both answer alike, or both ask the handler the like for the same place. -/
inductive Plan.Alike (g : β → γ) (f : π → ρ) : Plan β π → Plan γ ρ → Prop
  | answer {o : Outcome β π} {o' : Outcome γ ρ} (h : o.Alike g f o') :
    Alike g f (.answer o) (.answer o')
  | invoke {call : Invocation β} {call' : Invocation γ} {events events' : List Event}
    (hr : call.request.Alike g call'.request) (hp : call.position = call'.position) :
    Alike g f (.invoke call events) (.invoke call' events')

namespace Session.Alike

variable {g : β → γ} {f : π → ρ} {s : Session β π} {s' : Session γ ρ}

theorem start : (start : Session β π).Alike g f start := ⟨.none, .empty, rfl⟩

variable (hs : s.Alike g f s')

include hs

theorem snapshot : s.snapshot = s'.snapshot := by
  have hlast : s.lastRequest?.map (·.position) = s'.lastRequest?.map (·.position) := by
    have h := hs.lastRequest
    generalize s.lastRequest? = last, s'.lastRequest? = last' at h ⊢
    cases h with
    | none => rfl
    | some hq => exact congrArg some hq.position
  rw [Session.snapshot, Session.snapshot, hs.lastPosition, hlast, hs.buffer.positions]

variable {r : Request β} {r' : Request γ} (hr : r.Alike g r')

include hr

theorem pending : s.pending r = s'.pending r' := by
  rw [Session.pending, Session.pending, hs.buffer.size, hr.position, hs.buffer.coveredBy]

omit hs in
theorem asked (setup setup' : Setup) : (s.asked setup r).Alike g (s'.asked setup' r') := by
  have hq := s.asked_shrunk setup r
  have hq' := s'.asked_shrunk setup' r'
  constructor
  · rw [hq.position_eq, hq'.position_eq, hr.position]
  · rw [hq.body_eq, hq'.body_eq, hr.body]

/-- **Alike requests stand alike**: `g` tells any two bodies apart. -/
theorem standing [DecidableEq β] [DecidableEq γ] (hg : Function.Injective g) :
    s.standing r = s'.standing r' := by
  have hinitial : r.isInitial = r'.isInitial := by
    rw [Request.isInitial, Request.isInitial, hr.position]
  have hretransmit : s.lastRequest?.any (·.position == r.position)
      = s'.lastRequest?.any (·.position == r'.position) :=
    any_eq_of_rel hs.lastRequest fun q q' hq => by rw [hq.position, hr.position]
  have hsame : s.lastRequest?.any (·.same r) = s'.lastRequest?.any (·.same r') :=
    -- nothing else looks at a body, and this only compares two of them
    any_eq_of_rel hs.lastRequest fun q q' hq => by
      rw [Request.same, Request.same, ← hq.body, ← hr.body]
      exact decide_eq_decide.mpr hg.eq_iff.symm
  rw [Session.standing, Session.standing, hinitial, hretransmit, hsame, hr.position,
    hs.buffer.oldest?, hs.lastPosition]

theorem replay? :
    Option.Rel (fun served served' => served.1.Alike g f served'.1 ∧ served.2.Alike f served'.2)
      (s.replay? r) (s'.replay? r') := by
  have hfirst := hs.buffer.firstAfter r.position
  rw [Session.replay?, Session.replay?, ← hr.position]
  generalize s.buffer.firstAfter r.position = first,
    s'.buffer.firstAfter r.position = first' at hfirst ⊢
  cases hfirst with
  | none => exact .none
  | some hhead => exact .some ⟨⟨.some hr, hs.buffer.acknowledge _, hs.lastPosition⟩, hhead⟩

variable {setup setup' : Setup} (hlimit : setup.limits.maxBuffered = setup'.limits.maxBuffered)

include hlimit

theorem consult (standing standing' : Standing) :
    (s.consult setup standing r).Alike g f (s'.consult setup' standing' r') := by
  have hpending := hs.pending hr
  have hfull : setup.limits.isFull (s.pending r) = setup'.limits.isFull (s'.pending r') := by
    rw [Limits.isFull, Limits.isFull, hlimit, hpending]
  simp only [Session.consult]
  rw [hfull, hs.lastPosition, hlimit, hpending]
  split
  · exact .answer ⟨hs, .error _⟩
  · split
    · exact .answer ⟨hs, .error _⟩
    · exact .invoke (asked hr setup setup') rfl

/-- **Alike requests are planned alike**: refused with the same error, or served with alike
responses, or put to the handler. -/
theorem plan [DecidableEq β] [DecidableEq γ] (hg : Function.Injective g) :
    (s.plan setup r).Alike g f (s'.plan setup' r') := by
  have hstanding := hs.standing hr hg
  simp only [Session.plan, owed?_eq]
  rw [hstanding, hr.position]
  split
  · exact .answer ⟨hs, .error _⟩
  · cases (s'.standing r').isSame with
    | false => exact hs.consult hr hlimit _ _
    | true =>
      have hreplay := hs.replay? hr
      simp only [if_true]
      generalize s.replay? r = replay, s'.replay? r' = replay' at hreplay
      cases hreplay with
      | none => exact hs.consult hr hlimit _ _
      | some hserved => exact .answer ⟨hserved.1, .ok hserved.2⟩

end Session.Alike

/-! ### Handlers -/

namespace Session.Alike

variable {g : β → γ} {f : π → ρ} {s : Session β π} {s' : Session γ ρ} (hs : s.Alike g f s')
  {call : Invocation β} {call' : Invocation γ} (hr : call.request.Alike g call'.request)
  (hp : call.position = call'.position)

include hs hr hp

theorem commit {x : Response π} {x' : Response ρ} (hx : f x.payload = x'.payload) :
    (s.commit call x).1.Alike g f (s'.commit call' x').1 ∧
      ResultAlike f (s.commit call x).2 (s'.commit call' x').2 := by
  have hplaced : Response.Alike f { x with position := call.position, txnId := call.request.txnId }
      { x' with position := call'.position, txnId := call'.request.txnId } := ⟨hp, hx⟩
  simp only [Session.commit]
  rw [hs.buffer.refusal? hplaced.position]
  split
  · -- whether a response can be refused at all does not matter here
    rw [hp]
    exact ⟨hs, .error _⟩
  · have hbuffer := (hs.buffer.add hplaced).acknowledge call.request.position
    rw [← hr.position]
    have hhead := hbuffer.head?
    refine ⟨⟨.some hr, hbuffer, hp⟩, ?_⟩
    generalize ((s.buffer.add _).acknowledge _).head? = head,
      ((s'.buffer.add _).acknowledge _).head? = head' at hhead ⊢
    cases hhead with
    | none => exact .error _
    | some hx => exact .ok hx

/-- **Alike replies end alike.** -/
theorem finish {reply : Reply π} {reply' : Reply ρ} (hreply : reply.Alike f reply')
    (setup setup' : Setup) :
    (s.finish setup call reply).Alike g f (s'.finish setup' call' reply') := by
  cases hreply with
  | respond hx =>
    obtain ⟨hsession, hresult⟩ := hs.commit hr hp hx
    exact ⟨hsession, hresult⟩
  | fail herror => exact ⟨hs, .handler herror⟩
  | panic hmessage =>
    simp only [Session.finish]
    rw [hmessage]
    exact ⟨hs, .error _⟩

end Session.Alike

/-! ### Runs -/

/-- A handler that ends its calls as the script says, one after another. It remembers how many
there have been. -/
def Handler.scripted (script : Nat → Reply π) : Handler Nat β π := fun n _ => (script n, n + 1)

/-- Requests one after another, with a handler that follows a script and has ended `n` calls: how
each of them ended, and how many calls of the handler there had been by then. -/
def Session.serveAll [DecidableEq β] (setup : Setup) (script : Nat → Reply π) (s : Session β π)
    (n : Nat) : List (Request β) → List (Outcome β π × Nat)
  | [] => []
  | r :: rest =>
    let served := s.serve setup (Handler.scripted script) n r
    served :: served.1.session.serveAll setup script served.2 rest

/-- Both ended alike, and both handlers have ended as many calls. -/
structure ServedAlike (f : π → ρ) (served : Outcome β π × Nat) (served' : Outcome γ ρ × Nat) :
    Prop where
  result : ResultAlike f served.1.result served'.1.result
  snapshot : served.1.session.snapshot = served'.1.session.snapshot
  invoked : served.2 = served'.2

namespace Session.Alike

variable [DecidableEq β] [DecidableEq γ] {g : β → γ} {f : π → ρ} {s : Session β π}
  {s' : Session γ ρ} {setup setup' : Setup} {script : Nat → Reply π} {script' : Nat → Reply ρ}

/-- **One request**: the handlers are both asked or both not. -/
theorem serve (hs : s.Alike g f s') (hg : Function.Injective g)
    (hlimit : setup.limits.maxBuffered = setup'.limits.maxBuffered)
    (hscript : ∀ n, (script n).Alike f (script' n)) {r : Request β} {r' : Request γ}
    (hr : r.Alike g r') (n : Nat) :
    let served := s.serve setup (Handler.scripted script) n r
    let served' := s'.serve setup' (Handler.scripted script') n r'
    served.1.Alike g f served'.1 ∧ served.2 = served'.2 := by
  have hplan := hs.plan hr hlimit hg
  unfold Session.serve
  generalize s.plan setup r = plan, s'.plan setup' r' = plan' at hplan
  cases hplan with
  | answer houtcome => exact ⟨houtcome, rfl⟩
  | invoke hcall hposition =>
    have hfinish := hs.finish hcall hposition (hscript n) setup setup'
    exact ⟨⟨hfinish.session, hfinish.result⟩, rfl⟩

/-- **Requests one after another.** -/
theorem serveAll (hs : s.Alike g f s') (hg : Function.Injective g)
    (hlimit : setup.limits.maxBuffered = setup'.limits.maxBuffered)
    (hscript : ∀ n, (script n).Alike f (script' n)) {rs : List (Request β)}
    {rs' : List (Request γ)} (hrs : List.Forall₂ (Request.Alike g) rs rs') (n : Nat) :
    List.Forall₂ (ServedAlike f) (s.serveAll setup script n rs)
      (s'.serveAll setup' script' n rs') := by
  induction hrs generalizing s s' n with
  | nil => exact .nil
  | cons hr _ ih =>
    obtain ⟨houtcome, hinvoked⟩ := hs.serve hg hlimit hscript hr n
    refine .cons ⟨houtcome.result, houtcome.session.snapshot, hinvoked⟩ ?_
    rw [← hinvoked]
    exact ih houtcome.session _

end Session.Alike

/-- **Runs look alike.** Two new sessions with the same bound on their buffers get as many requests,
from the same positions, with bodies that are related by a map `g` which tells any two bodies apart.
Their handlers end call by call in the same way, with payloads that are related by any map `f`. What
else there is may differ: the ids of devices and users, transaction ids, timeouts and their limit,
and what the handlers put on their responses. Then at each request both handlers are asked or both
are not; the results are the same error, or responses of one position with payloads that `f`
relates; and the sessions show the same positions. -/
theorem runs_alike [DecidableEq β] [DecidableEq γ] {g : β → γ} (hg : Function.Injective g)
    (f : π → ρ) {setup setup' : Setup}
    (hlimit : setup.limits.maxBuffered = setup'.limits.maxBuffered)
    {script : Nat → Reply π} {script' : Nat → Reply ρ}
    (hscript : ∀ n, (script n).Alike f (script' n))
    {rs : List (Request β)} {rs' : List (Request γ)}
    (hrs : List.Forall₂ (Request.Alike g) rs rs') :
    List.Forall₂ (ServedAlike f)
      (Session.start.serveAll setup script 0 rs) (Session.start.serveAll setup' script' 0 rs') :=
  Session.Alike.start.serveAll hg hlimit hscript hrs 0

/-- The bodies are numbers and their successors, and the payloads words and their lengths. The third
request panics one handler without a text, and the other with the text that stands for none; the
fourth is served from both buffers, and the fifth is refused. -/
theorem runs_alike_of_lengths :
    let setup : Setup := ⟨⟨"phone"⟩, "alice", .standard⟩
    let setup' : Setup := ⟨⟨"laptop"⟩, "bob", Limits.standard.withMinTimeout (.ofSeconds 1)⟩
    let script : Nat → Reply String
      | 0 => .respond (.fresh "hello")
      | 1 => .respond (.fresh "world")
      | _ => .panic .other
    let script' : Nat → Reply Nat
      | 0 => .respond ⟨.ofNat 9, "mine", 5⟩
      | 1 => .respond ⟨.ofNat 4, "", 5⟩
      | _ => .panic (.text "unknown panic payload")
    let rs : List (Request Nat) :=
      [⟨.initial, 1, "a", .ofMillis 1⟩, ⟨.ofNat 1, 1, "b", .ofMillis 1⟩,
        ⟨.ofNat 1, 2, "c", .ofMillis 1⟩, .fresh (.ofNat 1) 1, .fresh (.ofNat 7) 1]
    let rs' : List (Request Nat) :=
      [.fresh .initial 2, .fresh (.ofNat 1) 2, .fresh (.ofNat 1) 3, .fresh (.ofNat 1) 2,
        ⟨.ofNat 7, 2, "z", .ofSeconds 2⟩]
    let runs := Session.start.serveAll setup script 0 rs
    let runs' := Session.start.serveAll setup' script' 0 rs'
    runs.map (·.2) = [1, 2, 3, 3, 3] ∧
      runs.map (·.1.result.isOk) = [true, true, false, true, false] ∧
      List.Forall₂ (ServedAlike String.length) runs runs' := by
  intro setup setup' script script' rs rs' runs runs'
  have hscript : ∀ n, (script n).Alike String.length (script' n)
    | 0 => .respond rfl
    | 1 => .respond rfl
    | _ + 2 => .panic rfl
  have hrs : List.Forall₂ (Request.Alike Nat.succ) rs rs' :=
    .cons ⟨rfl, rfl⟩ <| .cons ⟨rfl, rfl⟩ <| .cons ⟨rfl, rfl⟩ <| .cons ⟨rfl, rfl⟩ <|
      .cons ⟨rfl, rfl⟩ .nil
  have hasked : runs.map (·.2) = [1, 2, 3, 3, 3] := by
    decide +kernel
  have hresults : runs.map (·.1.result.isOk) = [true, true, false, true, false] := by
    decide +kernel
  have hsucc : Function.Injective Nat.succ := fun _ _ => Nat.succ.inj
  have hlimit : setup.limits.maxBuffered = setup'.limits.maxBuffered := rfl
  exact ⟨hasked, hresults, runs_alike hsucc String.length hlimit hscript hrs⟩

end LongPoll
