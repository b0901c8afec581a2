/-
# How a session decides

What becomes of a request is a table over three numbers of the history and its last answered
request (`Ruling`). The session looks at other things, at the ends of its buffer and at flags taken
from them, and tries the buffer at two places; what it then does is one row of the table
(`Session.Tracks.ruling`), and which row it was can be told from how the call ended
(`decision_law`).

Key definitions: `Ruling`, `Failing`.
Key theorems: `Ruling.failing`, `Ruling.unknownPosition_iff`, `Session.Tracks.finish_error`,
`Session.Tracks.ruling`, `decision_law`.
-/
import LongPoll.Proofs.Invariant

namespace LongPoll

open History

variable {β π : Type}

/-- The rows of the table: what the history says of the request, and what is seen of the call. -/
inductive Ruling (limits : Limits) (s : Session β π) (h : History β π) (e : Exchange β π) : Prop
  | unknown (hk : ¬ Known h e.request.position) (ha : e.asked = [])
      (hr : e.outcome.result = .error (.unknownPosition e.request.position))
  | owed (head : Response π) (hk : Known h e.request.position) (ho : Owed h e.request)
      (ha : e.asked = []) (hhead : head ∈ s.buffer.responses) (hr : e.outcome.result = .ok head)
  | full (limit : Nat) (hk : Known h e.request.position) (ho : ¬ Owed h e.request)
      (hm : limits.maxBuffered = some limit) (hl : limit ≤ pending h e.request.position)
      (ha : e.asked = []) (hr : e.outcome.result = .error (.bufferFull limit))
  | exhausted (last : Position) (hk : Known h e.request.position) (ho : ¬ Owed h e.request)
      (hf : ¬ Full h limits e.request.position) (hn : newest h = wordLimit - 1)
      (hlast : last.val = newest h) (ha : e.asked = [])
      (hr : e.outcome.result = .error (.positionOverflow last))
  | invoked (call : Invocation β) (hk : Known h e.request.position) (ho : ¬ Owed h e.request)
      (hf : ¬ Full h limits e.request.position) (hn : newest h ≠ wordLimit - 1)
      (ha : e.asked = [call])
      (hr : ∀ error, e.outcome.result = .error error →
        (∃ fault, error = .handler fault) ∨ ∃ message, error = .handlerPanicked message)

/-- Why a call fails, and whether the handler was asked. -/
inductive Failing (limits : Limits) (h : History β π) (e : Exchange β π) : SessionError → Prop
  | unknown (hk : ¬ Known h e.request.position) (ha : e.asked = []) :
    Failing limits h e (.unknownPosition e.request.position)
  | full (limit : Nat) (hk : Known h e.request.position) (ho : ¬ Owed h e.request)
      (hm : limits.maxBuffered = some limit) (hl : limit ≤ pending h e.request.position)
      (ha : e.asked = []) : Failing limits h e (.bufferFull limit)
  | exhausted (last : Position) (hk : Known h e.request.position) (ho : ¬ Owed h e.request)
      (hf : ¬ Full h limits e.request.position) (hn : newest h = wordLimit - 1)
      (hlast : last.val = newest h) (ha : e.asked = []) :
    Failing limits h e (.positionOverflow last)
  | handler (call : Invocation β) (ha : e.asked = [call]) (error : HandlerError) :
    Failing limits h e (.handler error)
  | panicked (call : Invocation β) (ha : e.asked = [call]) (message : String) :
    Failing limits h e (.handlerPanicked message)

/-- The error of a failed call says which row of the table it was. -/
theorem Ruling.failing {limits : Limits} {s : Session β π} {h : History β π} {e : Exchange β π}
    (hruling : Ruling limits s h e) {error : SessionError}
    (herror : e.outcome.result = .error error) : Failing limits h e error := by
  cases hruling with
  | unknown hk ha hr =>
    obtain rfl : _ = error := Except.error.inj (hr.symm.trans herror)
    exact .unknown hk ha
  | owed head hk ho ha hhead hr =>
    rw [hr] at herror
    cases herror
  | full limit hk ho hm hl ha hr =>
    obtain rfl : _ = error := Except.error.inj (hr.symm.trans herror)
    exact .full limit hk ho hm hl ha
  | exhausted last hk ho hf hn hlast ha hr =>
    obtain rfl : _ = error := Except.error.inj (hr.symm.trans herror)
    exact .exhausted last hk ho hf hn hlast ha
  | invoked call hk ho hf hn ha hr =>
    obtain ⟨fault, rfl⟩ | ⟨message, rfl⟩ := hr error herror
    · exact .handler call ha fault
    · exact .panicked call ha message

theorem Ruling.unknownPosition_iff {limits : Limits} {s : Session β π} {h : History β π}
    {e : Exchange β π} (hruling : Ruling limits s h e) (p : Position) :
    e.outcome.result = .error (.unknownPosition p) ↔
      ¬ Known h e.request.position ∧ p = e.request.position := by
  constructor
  · intro hp
    cases hruling.failing hp with
    | unknown hk ha => exact ⟨hk, rfl⟩
  · rintro ⟨hunknown, rfl⟩
    cases hruling with
    | unknown hk ha hr => exact hr
    | owed head hk ho ha hhead hr => exact absurd hk hunknown
    | full limit hk ho hm hl ha hr => exact absurd hk hunknown
    | exhausted last hk ho hf hn hlast ha hr => exact absurd hk hunknown
    | invoked call hk ho hf hn ha hr => exact absurd hk hunknown

namespace Session.Tracks

variable {s : Session β π} {h : History β π} (t : s.Tracks h)

include t

/-- What may still go wrong once the handler is asked is the handler's doing. -/
theorem finish_error (setup : Setup) (call : Invocation β)
    (hpos : call.position.val = newest h + 1) (hle : call.request.position.val ≤ newest h)
    (reply : Reply π) {error : SessionError}
    (hr : (s.finish setup call reply).result = .error error) :
    (∃ fault, error = .handler fault) ∨ ∃ message, error = .handlerPanicked message := by
  cases reply with
  | respond response =>
    obtain ⟨-, head, -, hcommit⟩ := t.commit call hpos hle response
    simp only [finish, hcommit, conclude, reduceCtorEq] at hr
  | fail fault =>
    simp only [finish, conclude, Except.error.injEq] at hr
    exact Or.inl ⟨_, hr.symm⟩
  | panic payload =>
    simp only [finish, conclude, Except.error.injEq] at hr
    exact Or.inr ⟨_, hr.symm⟩

variable [DecidableEq β]

/-- **Every call is a row of the table.** -/
theorem ruling (setup : Setup) (r : Request β) (reply : Reply π) :
    Ruling setup.limits s h (s.exchange setup r reply) := by
  have hv := t.verdict setup r
  generalize hplan : s.plan setup r = plan at hv
  cases hv with
  | unknown hk =>
    rw [exchange_of_answer hplan]
    exact .unknown hk rfl rfl
  | owed head hk ho hh =>
    rw [exchange_of_answer hplan]
    have hhead : head ∈ s.buffer.responses := t.buffer.mem_of_getElem? (Nat.le_max_left _ _) hh
    exact .owed head hk ho rfl hhead rfl
  | full limit hk ho hm hl =>
    rw [exchange_of_answer hplan]
    exact .full limit hk ho hm hl rfl rfl
  | exhausted hk ho hf hn =>
    rw [exchange_of_answer hplan]
    exact .exhausted s.lastPosition hk ho hf hn t.lastPosition rfl rfl
  | invoked position hk ho hf hpos =>
    rw [exchange_of_invoke hplan]
    have hlt := position.lt_limit
    refine .invoked _ hk ho hf (by omega) rfl fun error hr => ?_
    exact t.finish_error setup ⟨s.asked setup r, _, _, position⟩ hpos (t.asked_le setup hk) reply hr

end Session.Tracks

/-- **The decision law.** After any run of calls, with `newest`, `acked` and `last?` of its history:
a request is refused exactly if its position is not known; of the others, exactly those that are
owed a response get a buffered one, without the handler; of the rest, exactly those that leave too
much unacknowledged find the buffer full; of the rest, all fail if positions have run out; and
exactly what remains goes to the handler, once. -/
theorem decision_law [DecidableEq β] (setup : Setup) (calls : List (Request β × Reply π))
    (r : Request β) (reply : Reply π) :
    let s := (Session.start : Session β π).after setup calls
    let h := (Session.start : Session β π).history setup calls
    let e := s.exchange setup r reply
    (∀ p, e.outcome.result = .error (.unknownPosition p) ↔
        ¬ Known h r.position ∧ p = r.position) ∧
      ((e.asked = [] ∧ ∃ response ∈ s.buffer.responses, e.outcome.result = .ok response) ↔
        Known h r.position ∧ Owed h r) ∧
      (∀ m, e.outcome.result = .error (.bufferFull m) ↔
        Known h r.position ∧ ¬ Owed h r ∧ setup.limits.maxBuffered = some m ∧
          m ≤ pending h r.position) ∧
      (∀ last, e.outcome.result = .error (.positionOverflow last) ↔
        Known h r.position ∧ ¬ Owed h r ∧ ¬ Full h setup.limits r.position ∧
          newest h = wordLimit - 1 ∧ last.val = newest h) ∧
      (e.asked.length = 1 ↔
        Known h r.position ∧ ¬ Owed h r ∧ ¬ Full h setup.limits r.position ∧
          newest h ≠ wordLimit - 1) ∧
      e.asked.length ≤ 1 := by
  intro s h e
  have t : s.Tracks h := Session.tracks_after setup calls
  have hruling : Ruling setup.limits s h e := t.ruling setup r reply
  have he : e.request = r := rfl
  rw [← he]
  have hroom (hf : ¬ Full h setup.limits e.request.position) (m : Nat) :
      ¬ (setup.limits.maxBuffered = some m ∧ m ≤ pending h e.request.position) :=
    fun hm => hf ⟨m, hm⟩
  cases hruling with
  | unknown hk ha hr => simp [hk, ha, hr, eq_comm]
  | owed head hk ho ha hhead hr => simp [hk, ho, ha, hr, hhead]
  | full limit hk ho hm hl ha hr =>
    have hf : Full h setup.limits e.request.position := ⟨limit, hm, hl⟩
    simp [hk, ho, ha, hr, hf, hm, hl, eq_comm]
  | exhausted last hk ho hf hn hlast ha hr =>
    have hlast_iff : ∀ q : Position, last = q ↔ q.val = newest h := fun q => by
      rw [← Position.val_inj, hlast, eq_comm]
    simp [hk, ho, ha, hr, hf, hroom hf, ← hn, hlast_iff]
  | invoked call hk ho hf hn ha hr =>
    have hunknown : ∀ p, e.outcome.result ≠ .error (.unknownPosition p) := fun p hp => by
      simpa using hr _ hp
    have hbuffer : ∀ m, e.outcome.result ≠ .error (.bufferFull m) := fun m hm => by
      simpa using hr _ hm
    have hoverflow : ∀ last, e.outcome.result ≠ .error (.positionOverflow last) := fun last hl => by
      simpa using hr _ hl
    simp [hk, ho, ha, hf, hn, hroom hf, hunknown, hbuffer, hoverflow]

end LongPoll
