/-
# The history of a session

What a run of calls looks like from outside: the request of each call, what the handler was asked
in it and what it replied, and how the call ended. From the history alone follow the numbers that
the statements about sessions are made of: `newest`, how many responses the handler returned,
`acked`, the largest position of an answered request, and `last?`, the last answered request; and
the stream, the responses that the handler returned, numbered from 1.

Key definitions: `Exchange`, `Session.exchange`, `Session.after`, `Session.history`,
`History.produced`, `History.stream`, `History.answered`, `History.acked`, `History.last?`.
Key theorems: `History.acked_append`, `History.stream_prefix`, `History.stream_positions`,
`Session.exchange_outcome`, `Session.history_append`, `Session.history_outcome`,
`Session.history_getElem?`.
-/
import LongPoll.Session

namespace LongPoll

variable {β π : Type}

/-- One call, as it is seen from outside. -/
structure Exchange (β π : Type) where
  request : Request β
  /-- What the handler replies, whenever it is asked. -/
  reply : Reply π
  asked : List (Invocation β)
  outcome : Outcome β π

/-- A handler that has one reply to everything, and remembers what it was asked. -/
def Handler.replying (reply : Reply π) : Handler (List (Invocation β)) β π :=
  fun asked call => (reply, asked ++ [call])

theorem eq_ok_of_toOption {result : Except SessionError (Response π)} {response : Response π}
    (h : result.toOption = some response) : result = .ok response := by
  cases result with
  | error error => cases h
  | ok got =>
    cases h
    rfl

namespace Exchange

/-- The device got a response. -/
def isAnswered (e : Exchange β π) : Bool := e.outcome.result.isOk

/-- The responses that the handler returned, each with the request it was made for. -/
def produced (e : Exchange β π) : List (Request β × Response π) :=
  match e.reply with
  | .respond response => e.asked.map fun _ => (e.request, response)
  | .fail _ | .panic _ => []

end Exchange

abbrev History (β π : Type) : Type := List (Exchange β π)

/-- The position of a number, or the largest one if it does not fit. -/
def Position.ofNat (n : Nat) : Position := (ofNat? n).getD last

theorem Position.val_ofNat {n : Nat} (h : n < wordLimit) : (ofNat n).val = n := by
  simp [ofNat, ofNat?, h]

namespace History

variable (h : History β π)

def produced : List (Request β × Response π) := h.flatMap Exchange.produced

/-- How many responses the handler returned. -/
def newest : Nat := (produced h).length

/-- The responses that the handler returned, as they are given out: numbered from 1, each under
the transaction id of the request it was made for. -/
def stream : List (Response π) :=
  (produced h).mapIdx fun i (request, response) =>
    { response with position := .ofNat (i + 1), txnId := request.txnId }

/-- The requests that were answered with a response. -/
def answered : List (Request β) := (h.filter Exchange.isAnswered).map Exchange.request

/-- The largest position of an answered request, 0 if there is none. -/
def acked : Nat := ((answered h).map fun r => r.position.val).max?.getD 0

def last? : Option (Request β) := (answered h).getLast?

/-! ### One more call -/

variable {h} {e : Exchange β π}

theorem produced_concat : produced (h ++ [e]) = produced h ++ e.produced := by
  simp [produced]

theorem newest_concat : newest (h ++ [e]) = newest h + e.produced.length := by
  simp [newest, produced_concat]

theorem answered_concat :
    answered (h ++ [e]) = answered h ++ if e.isAnswered then [e.request] else [] := by
  by_cases he : e.isAnswered = true <;> simp [answered, he]

theorem max?_getD_append (l m : List Nat) :
    (l ++ m).max?.getD 0 = max (l.max?.getD 0) (m.max?.getD 0) := by
  have hcons : ∀ (n : Nat) (l : List Nat), (n :: l).max?.getD 0 = max n (l.max?.getD 0) := by
    intro n l
    rw [List.max?_cons]
    cases l.max? <;> simp
  induction l with
  | nil => simp
  | cons n l ih => rw [List.cons_append, hcons, hcons, ih, Nat.max_assoc]

theorem acked_append (h k : History β π) : acked (h ++ k) = max (acked h) (acked k) := by
  rw [acked, answered, List.filter_append, List.map_append, List.map_append, max?_getD_append]
  rfl

theorem acked_concat :
    acked (h ++ [e]) = if e.isAnswered then max (acked h) e.request.position.val else acked h := by
  rw [acked_append]
  by_cases he : e.isAnswered = true <;> simp [acked, answered, he]

theorem last?_concat : last? (h ++ [e]) = if e.isAnswered then some e.request else last? h := by
  by_cases he : e.isAnswered = true <;> simp [last?, answered_concat, he]

/-- The stream only ever grows at its end. -/
theorem stream_prefix (h k : History β π) : stream h <+: stream (h ++ k) := by
  have hp : produced (h ++ k) = produced h ++ produced k := by simp [produced]
  rw [stream, stream, hp, List.mapIdx_append]
  exact List.prefix_append _ _

theorem stream_concat_nil (he : e.produced = []) : stream (h ++ [e]) = stream h := by
  simp [stream, produced_concat, he]

theorem stream_concat_one {r : Request β} {response : Response π}
    (he : e.produced = [(r, response)]) :
    stream (h ++ [e]) = stream h ++
      [{ response with position := .ofNat (newest h + 1), txnId := r.txnId }] := by
  simp [stream, produced_concat, he, newest]

/-! ### What the numbers are bounded by -/

@[simp] theorem stream_length : (stream h).length = newest h := by simp [stream, newest]

theorem stream_getElem? (i : Nat) :
    (stream h)[i]? = (produced h)[i]?.map fun (request, response) =>
      { response with position := .ofNat (i + 1), txnId := request.txnId } := by
  simp [stream]

/-- While the numbers fit, the positions of the stream are 1, 2, 3, …. -/
theorem stream_positions (hn : newest h < wordLimit) :
    (stream h).map (fun r => r.position.val) = List.range' 1 (newest h) := by
  apply List.ext_getElem (by simp)
  intro i hi _
  have hi : i < newest h := by simpa using hi
  simp only [List.getElem_map, List.getElem_range', stream, List.getElem_mapIdx]
  rw [Position.val_ofNat (by omega)]
  omega

theorem last?_le_acked {r : Request β} (hr : r ∈ last? h) : r.position.val ≤ acked h := by
  have hmem : r ∈ answered h := List.mem_of_getLast? hr
  exact List.le_max?_getD_of_mem (List.mem_map.mpr ⟨r, hmem, rfl⟩)

end History

namespace Session

variable [DecidableEq β] {setup : Setup} {s : Session β π}

def exchange (setup : Setup) (s : Session β π) (r : Request β) (reply : Reply π) :
    Exchange β π :=
  let (outcome, asked) := s.serve setup (Handler.replying reply) [] r
  { request := r, reply, asked, outcome }

/-- The session after a run of calls. -/
def after (setup : Setup) (s : Session β π) (calls : List (Request β × Reply π)) :
    Session β π :=
  calls.foldl (fun s call => (s.step setup call.1 call.2).session) s

/-- A run of calls, as it is seen from outside. -/
def history (setup : Setup) (s : Session β π) : List (Request β × Reply π) → History β π
  | [] => []
  | (r, reply) :: rest =>
    let e := s.exchange setup r reply
    e :: history setup e.outcome.session rest

/-! ### One call -/

theorem exchange_of_answer {r : Request β} {outcome : Outcome β π}
    (h : s.plan setup r = .answer outcome) (reply : Reply π) :
    s.exchange setup r reply = { request := r, reply, asked := [], outcome } := by
  simp [exchange, serve, h]

theorem exchange_of_invoke {r : Request β} {call : Invocation β} {events : List Event}
    (h : s.plan setup r = .invoke call events) (reply : Reply π) :
    s.exchange setup r reply =
      { request := r, reply, asked := [call]
        outcome := { s.finish setup call reply with
          events := events ++ (s.finish setup call reply).events } } := by
  simp [exchange, serve, h, Handler.replying]

theorem serve_of_invoke {σ : Type} {r : Request β} {call : Invocation β} {events : List Event}
    (h : s.plan setup r = .invoke call events) (handler : Handler σ β π) (memory : σ) :
    s.serve setup handler memory r =
      ((s.exchange setup r (handler memory call).1).outcome, (handler memory call).2) := by
  rw [exchange_of_invoke h]
  simp [serve, h]

@[simp] theorem exchange_outcome (r : Request β) (reply : Reply π) :
    (s.exchange setup r reply).outcome = s.step setup r reply := by
  cases h : s.plan setup r with
  | answer outcome => rw [exchange_of_answer h, step_of_answer h]
  | invoke call events => rw [exchange_of_invoke h, step_of_invoke h]

/-! ### Runs -/

theorem history_cons (r : Request β) (reply : Reply π) (rest : List (Request β × Reply π)) :
    s.history setup ((r, reply) :: rest) =
      s.exchange setup r reply :: (s.step setup r reply).session.history setup rest := by
  rw [history, exchange_outcome]

theorem after_append (calls more : List (Request β × Reply π)) :
    s.after setup (calls ++ more) = (s.after setup calls).after setup more :=
  List.foldl_append ..

theorem history_append (calls more : List (Request β × Reply π)) :
    s.history setup (calls ++ more) =
      s.history setup calls ++ (s.after setup calls).history setup more := by
  induction calls generalizing s with
  | nil => rfl
  | cons call rest ih =>
    rw [List.cons_append, history_cons, history_cons, ih, List.cons_append]
    rfl

/-- How the calls of a history end is the run of the session. -/
theorem history_outcome (calls : List (Request β × Reply π)) :
    (s.history setup calls).map Exchange.outcome = s.run setup calls := by
  induction calls generalizing s with
  | nil => rfl
  | cons call rest ih => rw [history_cons, List.map_cons, ih, exchange_outcome, run]

/-- A run may be stopped after any of its calls. -/
theorem history_take (calls : List (Request β × Reply π)) (k : Nat) :
    (s.history setup calls).take k = s.history setup (calls.take k) := by
  induction calls generalizing s k with
  | nil => simp [history]
  | cons call rest ih =>
    cases k with
    | zero => rfl
    | succ k => rw [history_cons, List.take_succ_cons, List.take_succ_cons, ih, history_cons]

/-- What is seen of a call in the middle of a run is one call on the session that the calls before
it left. -/
theorem history_getElem? (calls : List (Request β × Reply π)) (k : Nat) :
    (s.history setup calls)[k]? = calls[k]?.map fun (r, reply) =>
      (s.after setup (calls.take k)).exchange setup r reply := by
  induction calls generalizing s k with
  | nil => rfl
  | cons call rest ih =>
    cases k with
    | zero => rfl
    | succ k => rw [history_cons, List.getElem?_cons_succ, List.getElem?_cons_succ, ih]; rfl

end Session
end LongPoll
