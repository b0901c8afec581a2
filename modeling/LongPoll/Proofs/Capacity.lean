/-
# No more than the limit is kept

Room for a response is looked for before the request's acknowledgment is applied, and against what
that acknowledgment will leave; the response is added before the acknowledgment is applied. All the
same, a session never holds more than its limit (`Session.Within`): a response is only made if the
request leaves less than the limit, and then its acknowledgment is applied. So whoever acknowledges
a response finds room, however full the buffer is.

Key definition: `Session.Within`.
Key theorems: `Ruling.produced_cases`, `Session.Tracks.within_step`, `Session.Tracks.within_run`,
`Session.Tracks.not_full`, `capacity_bound`.
-/
import LongPoll.Proofs.Decision

namespace LongPoll

open History

variable {β π : Type}

/-- No more is buffered than the limits allow. -/
def Session.Within (s : Session β π) (limits : Limits) : Prop :=
  ∀ m, limits.maxBuffered = some m → s.buffer.size ≤ m

theorem Session.within_start (limits : Limits) : (start : Session β π).Within limits :=
  fun m _ => Nat.zero_le m

theorem Exchange.produced_length_le (e : Exchange β π) :
    e.produced.length ≤ e.asked.length := by
  unfold produced
  split <;> simp

/-- A response is only made where there is room for it, and never more than one. -/
theorem Ruling.produced_cases {limits : Limits} {s : Session β π} {h : History β π}
    {e : Exchange β π} (hruling : Ruling limits s h e) :
    e.produced = [] ∨ ¬ Full h limits e.request.position ∧ e.produced.length ≤ 1 := by
  cases hruling with
  | unknown hk ha hr => exact .inl (Exchange.produced_of_asked_nil ha)
  | owed head hk ho ha hhead hr => exact .inl (Exchange.produced_of_asked_nil ha)
  | full limit hk ho hm hl ha hr => exact .inl (Exchange.produced_of_asked_nil ha)
  | exhausted last hk ho hf hn hlast ha hr => exact .inl (Exchange.produced_of_asked_nil ha)
  | invoked call hk ho hf hn ha hr => exact .inr ⟨hf, by simpa [ha] using e.produced_length_le⟩

/-- What a session holds is what its history leaves unacknowledged. -/
theorem Session.Tracks.size_eq {s : Session β π} {h : History β π} (t : s.Tracks h) :
    s.buffer.size = newest h - acked h := by
  rw [t.buffer.size, stream_length]

/-- **One call keeps within the limits.** -/
theorem Session.Tracks.within_step [DecidableEq β] {s : Session β π} {h : History β π}
    (t : s.Tracks h) {setup : Setup} (hw : s.Within setup.limits) (r : Request β)
    (reply : Reply π) : (s.step setup r reply).session.Within setup.limits := by
  intro m hm
  have hkept := hw m hm
  have hend := t.ending setup r reply
  have hmade := (t.ruling setup r reply).produced_cases
  rw [← exchange_outcome]
  generalize s.exchange setup r reply = e at hend hmade ⊢
  have hacked : acked h ≤ acked (h ++ [e]) := by
    rw [acked_append]
    exact Nat.le_max_left _ _
  rw [t.size_eq] at hkept
  rw [(t.concat hend).size_eq]
  rcases hmade with hnone | ⟨hf, hone⟩
  · rw [newest_concat, hnone, List.length_nil]
    omega
  · cases hend with
    | failed error hr hs hp =>
      rw [newest_concat, hp, List.length_nil]
      omega
    | answered head q hr hk hlast hq hpos hbuf hh =>
      -- what the request leaves is less than the limit, and one response is added to it
      have hroom : ¬ m ≤ History.pending h e.request.position := fun hfull => hf ⟨m, hm, hfull⟩
      rw [History.pending] at hroom
      rw [newest_concat, acked_concat, if_pos (Exchange.isAnswered_of_ok hr)]
      omega

theorem Session.Tracks.within_run [DecidableEq β] {s : Session β π} {h : History β π}
    (t : s.Tracks h) {setup : Setup} (hw : s.Within setup.limits)
    (calls : List (Request β × Reply π)) : (s.after setup calls).Within setup.limits := by
  induction calls generalizing s h with
  | nil => exact hw
  | cons call rest ih =>
    obtain ⟨r, reply⟩ := call
    have tnext := t.concat (t.ending setup r reply)
    rw [exchange_outcome] at tnext
    exact ih tnext (t.within_step hw r reply)

/-- A request from beyond what is acknowledged leaves less than a session within the limits holds,
so it leaves room. -/
theorem Session.Tracks.not_full {s : Session β π} {h : History β π} (t : s.Tracks h)
    {limits : Limits} (hw : s.Within limits) {p : Position} (hp : acked h < p.val)
    (hpos : 0 < newest h) : ¬ Full h limits p := by
  rintro ⟨m, hm, hfull⟩
  have hkept : s.buffer.size ≤ m := hw m hm
  have hlt : acked h < newest h := t.acked_lt hpos
  rw [t.size_eq] at hkept
  rw [History.pending] at hfull
  omega

/-- **No more than the limit is kept.** If `m` responses may be buffered, then after any run of
calls no more than `m` are; and a request that acknowledges one of them, or more, is never refused
for a full buffer, even if as many are buffered as may be. With a limit of 0 nothing is ever
buffered. -/
theorem capacity_bound [DecidableEq β] (setup : Setup) {m : Nat}
    (hm : setup.limits.maxBuffered = some m) (calls : List (Request β × Reply π)) :
    let s := (Session.start : Session β π).after setup calls
    s.buffer.size ≤ m ∧
      ∀ (r : Request β) (reply : Reply π), (∃ p ∈ s.buffer.positions, p ≤ r.position) →
        ∀ limit, (s.step setup r reply).result ≠ .error (.bufferFull limit) := by
  intro s
  let h := (Session.start : Session β π).history setup calls
  have t : s.Tracks h := Session.tracks_after setup calls
  have hw : s.Within setup.limits :=
    Session.tracks_start.within_run (Session.within_start setup.limits) calls
  refine ⟨hw m hm, ?_⟩
  rintro r reply ⟨p, hp, hle⟩ limit hr
  obtain ⟨response, hresponse, rfl⟩ := List.mem_map.mp hp
  have hacked : acked h < response.position.val := t.buffer.lt_position hresponse
  have hnewest : response.position.val ≤ newest h := by
    rw [← stream_length]
    exact t.buffer.position_le hresponse
  have hbeyond : acked h < r.position.val := Nat.lt_of_lt_of_le hacked hle
  rw [← Session.exchange_outcome] at hr
  cases (t.ruling setup r reply).failing hr with
  | full limit hk ho hlimit hl ha =>
    exact t.not_full hw hbeyond (by omega) ⟨limit, hlimit, hl⟩

/-- One response may be buffered, and one is: a request from its position is answered with the next
one, which takes its place. -/
theorem capacity_bound_of_one :
    let setup : Setup := { (default : Setup) with limits := Limits.standard.withMaxBuffered 1 }
    let calls : List (Request Nat × Reply Nat) := [(.fresh .initial 1, .respond (.fresh 10))]
    let s := (Session.start : Session Nat Nat).after setup calls
    let outcome := s.step setup (.fresh (.ofNat 1) 2) (.respond (.fresh 20))
    setup.limits.maxBuffered = some 1 ∧ s.buffer.size = 1 ∧
      (∃ p ∈ s.buffer.positions, p ≤ .ofNat 1) ∧
      (∀ limit, outcome.result ≠ .error (.bufferFull limit)) ∧ outcome.session.buffer.size ≤ 1 := by
  intro setup calls s outcome
  have hsize : s.buffer.size = 1 := by
    decide +kernel
  have hacknowledged : ∃ p ∈ s.buffer.positions, p ≤ .ofNat 1 := by
    decide +kernel
  have hnext := (capacity_bound setup rfl
    (calls ++ [(.fresh (.ofNat 1) 2, .respond (.fresh 20))])).1
  exact ⟨rfl, hsize, hacknowledged,
    (capacity_bound setup rfl calls).2 _ (.respond (.fresh 20)) hacknowledged, hnext⟩

end LongPoll
