/-
# The invariant of a session

A call on a session that tracks its history ends in one of two ways (`Ending`): it fails, and
leaves the session and the stream as they were; or it is answered with the response after the
largest position of an answered request, its own one included, and the session holds what comes
from there on. Either way the session tracks the history with the call added, so a session tracks
the history of every run (`Session.tracks_after`).

Key definition: `Ending`.
Key theorems: `Session.Tracks.commit`, `Session.Tracks.ending`, `Session.Tracks.concat`,
`Session.tracks_after`, `session_invariant`.
-/
import LongPoll.Proofs.Tracking

namespace LongPoll

open History

variable {β π : Type}

/-- How a call ends for a session that tracks `h`. -/
inductive Ending (s : Session β π) (h : History β π) (e : Exchange β π) : Prop
  | failed (error : SessionError) (hr : e.outcome.result = .error error)
      (hs : e.outcome.session = s) (hp : e.produced = [])
  | answered (head : Response π) (q : Request β) (hr : e.outcome.result = .ok head)
      (hk : Known h e.request.position)
      (hlast : e.outcome.session.lastRequest? = some q) (hq : q.Shrunk e.request)
      (hpos : e.outcome.session.lastPosition.val = newest (h ++ [e]))
      (hbuf : e.outcome.session.buffer.Holds (stream (h ++ [e]))
        (max (acked h) e.request.position.val))
      (hh : (stream (h ++ [e]))[max (acked h) e.request.position.val]? = some head)

theorem Exchange.produced_of_asked_nil {e : Exchange β π} (h : e.asked = []) :
    e.produced = [] := by
  unfold produced
  split
  · rw [h, List.map_nil]
  · rfl
  · rfl

theorem Exchange.isAnswered_of_ok {e : Exchange β π} {response : Response π}
    (h : e.outcome.result = .ok response) : e.isAnswered = true := by
  rw [isAnswered, h]
  rfl

theorem Exchange.isAnswered_of_error {e : Exchange β π} {error : SessionError}
    (h : e.outcome.result = .error error) : e.isAnswered = false := by
  rw [isAnswered, h]
  rfl

/-- A call that fails leaves the session as it was, and nothing produced. -/
theorem Ending.of_error {s : Session β π} {h : History β π} {e : Exchange β π}
    {error : SessionError} (hend : Ending s h e) (hr : e.outcome.result = .error error) :
    e.outcome.session = s ∧ e.produced = [] := by
  cases hend with
  | failed error' hr' hs hp => exact ⟨hs, hp⟩
  | answered head q hok hk hlast hq hpos hbuf hh =>
    rw [hok] at hr
    cases hr

theorem Ending.known_of_ok {s : Session β π} {h : History β π} {e : Exchange β π}
    {response : Response π} (hend : Ending s h e) (hr : e.outcome.result = .ok response) :
    Known h e.request.position := by
  cases hend with
  | failed error herror hs hp =>
    rw [hr] at herror
    cases herror
  | answered head q hok hk hlast hq hpos hbuf hh => exact hk

namespace Session.Tracks

variable {s : Session β π} {h : History β π} (t : s.Tracks h)

include t

/-- A response is never refused its place, and something is left to answer with: the place comes
after everything buffered and after every position that a request may acknowledge. -/
theorem commit (call : Invocation β) (hpos : call.position.val = newest h + 1)
    (hle : call.request.position.val ≤ newest h) (response : Response π) :
    let placed := { response with position := call.position, txnId := call.request.txnId }
    let buffer := (s.buffer.add placed).acknowledge call.request.position
    buffer.Holds (stream h ++ [placed]) (max (acked h) call.request.position.val) ∧
      ∃ head, (stream h ++ [placed])[max (acked h) call.request.position.val]? = some head ∧
        s.commit call response =
          ({ lastRequest? := some call.request, buffer, lastPosition := call.position },
            .ok head) := by
  intro placed buffer
  have hplaced : placed.position.val = (stream h).length + 1 := by rw [stream_length, ← hpos]
  have hlen : (stream h ++ [placed]).length = newest h + 1 := by simp
  have hacked := t.acked_le
  have hholds : buffer.Holds (stream h ++ [placed]) (max (acked h) call.request.position.val) :=
    (t.buffer.add hplaced).acknowledge (by omega)
  refine ⟨hholds, ?_⟩
  obtain ⟨head, hhead⟩ :
      ∃ head, (stream h ++ [placed])[max (acked h) call.request.position.val]? = some head :=
    ⟨_, List.getElem?_eq_getElem (by omega)⟩
  refine ⟨head, hhead, ?_⟩
  have hfront : buffer.head? = some head := by rw [hholds.head?, hhead]
  simp only [Session.commit]
  rw [t.buffer.refusal? hplaced]
  simp only [buffer, placed] at hfront ⊢
  rw [hfront]

variable [DecidableEq β]

/-- **How a call ends.** -/
theorem ending (setup : Setup) (r : Request β) (reply : Reply π) :
    Ending s h (s.exchange setup r reply) := by
  have hv := t.verdict setup r
  generalize hplan : s.plan setup r = plan at hv
  cases hv with
  | unknown hk =>
    rw [exchange_of_answer hplan]
    exact .failed _ rfl rfl (Exchange.produced_of_asked_nil rfl)
  | owed head hk ho hh =>
    rw [exchange_of_answer hplan]
    have hp := fun outcome : Outcome β π => Exchange.produced_of_asked_nil
      (e := { request := r, reply, asked := [], outcome }) rfl
    refine .answered head r rfl hk rfl (.refl r) ?_ ?_ ?_
    · rw [newest_concat, hp]
      exact t.lastPosition
    · rw [stream_concat_nil (hp _)]
      exact t.buffer.acknowledge (by rw [stream_length]; exact t.known_le hk)
    · rw [stream_concat_nil (hp _)]
      exact hh
  | full limit hk ho hm hl =>
    rw [exchange_of_answer hplan]
    exact .failed _ rfl rfl (Exchange.produced_of_asked_nil rfl)
  | exhausted hk ho hf hn =>
    rw [exchange_of_answer hplan]
    exact .failed _ rfl rfl (Exchange.produced_of_asked_nil rfl)
  | invoked position hk ho hf hpos =>
    rw [exchange_of_invoke hplan]
    cases reply with
    | fail fault => exact .failed _ rfl rfl rfl
    | panic payload => exact .failed _ rfl rfl rfl
    | respond response =>
      have hq := s.asked_shrunk setup r
      obtain ⟨hholds, head, hhead, hcommit⟩ :=
        t.commit ⟨s.asked setup r, s.standing r, s.buffer.coveredBy r.position, position⟩
          hpos (t.asked_le setup hk) response
      have hplace : position = .ofNat (newest h + 1) := by
        rw [← Position.val_inj, Position.val_ofNat (hpos ▸ position.lt_limit), hpos]
      simp only [finish, hcommit, conclude]
      simp only [hq.position_eq, hq.txnId_eq, hplace] at hholds hhead ⊢
      refine .answered head (s.asked setup r) rfl hk rfl hq ?_ ?_ ?_
      · rw [newest_concat]
        exact hplace ▸ hpos
      · rw [stream_concat_one rfl]
        exact hholds
      · rw [stream_concat_one rfl]
        exact hhead

end Session.Tracks

/-! ### Runs -/

/-- A session that tracks a history tracks it with one more call. -/
theorem Session.Tracks.concat {s : Session β π} {h : History β π} (t : s.Tracks h)
    {e : Exchange β π} (hend : Ending s h e) : e.outcome.session.Tracks (h ++ [e]) := by
  cases hend with
  | failed error hr hs hp =>
    have he := Exchange.isAnswered_of_error hr
    have hnewest : newest (h ++ [e]) = newest h := by rw [newest_concat, hp]; rfl
    have hacked : acked (h ++ [e]) = acked h := by simp [acked_concat, he]
    have hlast : last? (h ++ [e]) = last? h := by simp [last?_concat, he]
    rw [hs]
    exact
      { lastPosition := hnewest ▸ t.lastPosition
        buffer := by rw [stream_concat_nil hp, hacked]; exact t.buffer
        lastRequest := hlast ▸ t.lastRequest
        acked_lt := by rw [hnewest, hacked]; exact t.acked_lt
        last_eq_none := by rw [hnewest, hlast]; exact t.last_eq_none }
  | answered head q hr hk hlast hq hpos hbuf hh =>
    have he := Exchange.isAnswered_of_ok hr
    have hacked : acked (h ++ [e]) = max (acked h) e.request.position.val := by
      simp [acked_concat, he]
    have hlast' : last? (h ++ [e]) = some e.request := by simp [last?_concat, he]
    have hlt : acked (h ++ [e]) < newest (h ++ [e]) := by
      rw [hacked, ← stream_length]
      exact (List.getElem?_eq_some_iff.mp hh).1
    exact
      { lastPosition := hpos
        buffer := hacked ▸ hbuf
        lastRequest := by rw [hlast, hlast']; exact .some hq
        acked_lt := fun _ => hlt
        last_eq_none := by
          rw [hlast']
          simp only [reduceCtorEq, false_iff]
          omega }

namespace Session

theorem tracks_start : (start : Session β π).Tracks [] where
  lastPosition := rfl
  buffer := ⟨rfl, rfl, Nat.le_refl 0⟩
  lastRequest := .none
  acked_lt := fun h => absurd h (Nat.lt_irrefl 0)
  last_eq_none := Iff.intro (fun _ => rfl) fun _ => rfl

variable [DecidableEq β]

theorem Tracks.run {s : Session β π} {h : History β π} (t : s.Tracks h) (setup : Setup)
    (calls : List (Request β × Reply π)) :
    (s.after setup calls).Tracks (h ++ s.history setup calls) := by
  induction calls generalizing s h with
  | nil => rwa [history, List.append_nil]
  | cons call rest ih =>
    obtain ⟨r, reply⟩ := call
    have hnext := t.concat (t.ending setup r reply)
    rw [exchange_outcome] at hnext
    have hrest := ih hnext
    rw [history_cons]
    rwa [List.append_assoc] at hrest

/-- **A session tracks its history**, whatever the run. -/
theorem tracks_after (setup : Setup) (calls : List (Request β × Reply π)) :
    ((start : Session β π).after setup calls).Tracks (start.history setup calls) :=
  tracks_start.run setup calls

end Session

/-- **The invariant of a session.** After any run of calls on a new session, the last position is
the number of responses produced, the buffered positions are those after the acknowledged one, the
recorded request is the last answered one, up to its timeout, and is at or before the acknowledged
position; and nothing is buffered exactly if nothing was produced, which is exactly if nothing was
answered. A run may stop after any of its calls, so this holds between any two calls. -/
theorem session_invariant [DecidableEq β] (setup : Setup) (calls : List (Request β × Reply π)) :
    let s := (Session.start : Session β π).after setup calls
    let h := (Session.start : Session β π).history setup calls
    s.lastPosition.val = newest h ∧
      s.buffer.positions.map Position.val
        = List.range' (acked h + 1) (newest h - acked h) ∧
      Option.Rel Request.Shrunk s.lastRequest? (last? h) ∧
      (s.lastRequest?.all fun q => q.position.val ≤ acked h) = true ∧
      (s.buffer.isEmpty = true ↔ newest h = 0) ∧
      (s.lastRequest? = none ↔ newest h = 0) := by
  intro s h
  have t : s.Tracks h := Session.tracks_after setup calls
  refine ⟨t.lastPosition, ?_, t.lastRequest, ?_, ?_, ?_⟩
  · have hpos := t.buffer.positions
    rw [stream_length] at hpos
    rw [Buffer.positions, List.map_map, ← hpos]
    rfl
  · rcases t.lastRequest_cases with ⟨hs, -⟩ | ⟨q, r, hs, hh, hq⟩
    · rw [hs]
      rfl
    · rw [hs, Option.all_some, hq.position_eq]
      exact decide_eq_true (last?_le_acked hh)
  · have hsize := t.buffer.size
    rw [stream_length] at hsize
    have hacked := t.acked_lt
    rw [Buffer.isEmpty, beq_iff_eq, hsize]
    omega
  · rw [← t.last_eq_none]
    rcases t.lastRequest_cases with ⟨hs, hh⟩ | ⟨q, r, hs, hh, -⟩ <;> simp [hs, hh]

end LongPoll
