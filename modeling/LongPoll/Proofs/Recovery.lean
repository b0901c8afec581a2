/-
# What a client can recover from

A client that is the only one of its session can always go on, with one exception. From the place
of its last answered request it is owed a response if it repeats that request's body; from the place
after it the request acknowledges a response, so there is room for another. At position 0 a request
acknowledges nothing and is never owed anything: once as many responses are lost as the limits
allow, the client is stuck (`Rig.Stuck`), every request that it can make is refused, and so it
stays (`Rig.Following.stuck_run`).

Key definitions: `Session.Answers`, `Rig.Stuck`.
Key theorems: `Session.Tracks.answered`, `Session.Tracks.refused_of_full`,
`History.Follows.exists_body`, `Rig.Following.stuck_run`, `answerable_iff_not_stuck`,
`stuck_of_lost_response`.
-/
import LongPoll.Proofs.Capacity
import LongPoll.Proofs.Failure
import LongPoll.Proofs.Following
import LongPoll.Proofs.Numbering

namespace LongPoll

open History

variable {β π σ ρ : Type}

/-- A request at `p` with this body is answered, whatever else it carries, if the handler responds
in case it is asked. -/
def Session.Answers [DecidableEq β] (setup : Setup) (s : Session β π) (p : Position) (body : β) :
    Prop :=
  ∀ (r : Request β) (response : Response π), r.position = p → r.body = body →
    ∃ answer, (s.step setup r (.respond response)).result = .ok answer

namespace Session.Tracks

variable {s : Session β π} {h : History β π} (t : s.Tracks h) [DecidableEq β] {setup : Setup}
  {r : Request β}

include t

/-- A request of known position that is owed a response, or for which there is room and a
position, is answered. -/
theorem answered (hk : Known h r.position)
    (hroom : Owed h r ∨ ¬ Full h setup.limits r.position ∧ newest h < wordLimit - 1)
    (response : Response π) :
    ∃ answer, (s.step setup r (.respond response)).result = .ok answer := by
  have hv := t.verdict setup r
  generalize hplan : s.plan setup r = plan at hv
  cases hv with
  | unknown hunknown => exact absurd hk hunknown
  | owed head hk ho hh => exact ⟨head, by rw [step_of_answer hplan]; rfl⟩
  | full limit hk ho hm hl =>
    rcases hroom with howed | ⟨hf, -⟩
    · exact absurd howed ho
    · exact absurd ⟨limit, hm, hl⟩ hf
  | exhausted hk ho hf hn =>
    rcases hroom with howed | ⟨-, hlt⟩
    · exact absurd howed ho
    · omega
  | invoked position hk ho hf hpos =>
    obtain ⟨-, session, head, hcommit⟩ := t.takes hplan response
    refine ⟨head, ?_⟩
    rw [step_of_invoke hplan]
    simp only [finish, hcommit, conclude]

/-- A request of known position that is owed nothing is refused while the buffer is full. -/
theorem refused_of_full (hk : Known h r.position) (ho : ¬ Owed h r)
    (hf : Full h setup.limits r.position) (reply : Reply π) :
    ∃ limit, (s.step setup r reply).result = .error (.bufferFull limit) := by
  have hv := t.verdict setup r
  generalize hplan : s.plan setup r = plan at hv
  cases hv with
  | unknown hunknown => exact absurd hk hunknown
  | owed head hk howed hh => exact absurd howed ho
  | full limit hk ho hm hl => exact ⟨limit, by rw [step_of_answer hplan]; rfl⟩
  | exhausted hk ho hroom hn => exact absurd hf hroom
  | invoked position hk ho hroom hp => exact absurd hf hroom

end Session.Tracks

theorem History.not_owed_initial {h : History β π} {r : Request β}
    (h0 : r.position = .initial) : ¬ Owed h r := by
  rintro ⟨hne, -⟩
  rw [h0] at hne
  exact hne rfl

/-- **There is a body to go on with** wherever a client stands: anywhere but at position 0 the body
of the last answered request will do, and at position 0 any, as long as there is room. -/
theorem History.Follows.exists_body [Inhabited β] {s : Session β π} {h : History β π}
    {p : Position} {limits : Limits} (hf : Follows h p) (t : s.Tracks h)
    (hw : s.Within limits) (hroom : p = .initial → ¬ Full h limits p) :
    ∃ body, ∀ r : Request β, r.position = p → r.body = body → Owed h r ∨ ¬ Full h limits p := by
  rcases hf with ⟨hp, h0 | ⟨q, hq, hqp⟩⟩ | ⟨hp, hpos⟩
  · exact ⟨default, fun r _ _ => .inr (hroom (Position.val_inj.mp h0))⟩
  · by_cases h0 : p = .initial
    · exact ⟨default, fun r _ _ => .inr (hroom h0)⟩
    · -- a response is left for whoever repeats the last answered request
      refine ⟨q.body, fun r hr hbody => .inl ⟨?_, ⟨q, hq, hbody.symm⟩, ?_⟩⟩
      · rw [hr]
        exact fun hval => h0 (Position.val_inj.mp hval)
      · have hproduced : 0 < newest h := by
          rw [Nat.pos_iff_ne_zero, Ne, ← t.last_eq_none, hq]
          exact Option.some_ne_none q
        have hlt := t.acked_lt hproduced
        rw [History.pending, hr]
        omega
  · -- the request acknowledges a response, so it leaves less than the limit
    have hbeyond : acked h < p.val := by omega
    exact ⟨default, fun r _ _ => .inr (t.not_full hw hbeyond hpos)⟩

/-! ### The client and its session -/

namespace Rig

/-- The client has received nothing, and its session holds as much as it may. -/
def Stuck (limits : Limits) (rig : Rig σ ρ π) : Prop :=
  rig.client.position = .initial ∧ limits.isFull rig.session.buffer.size = true

instance (limits : Limits) (rig : Rig σ ρ π) : Decidable (rig.Stuck limits) :=
  inferInstanceAs (Decidable (_ ∧ _))

variable {setup : Setup} {handler : Handler σ String π} {draw : Link ρ} {rig : Rig σ ρ π}
  {h : History String π}

/-- For a client at position 0, a full buffer is what its requests leave unacknowledged. -/
theorem Following.stuck_iff (hr : rig.Following h) (limits : Limits) :
    rig.Stuck limits ↔
      rig.client.position = .initial ∧ Full h limits rig.client.position := by
  refine and_congr_right fun h0 => ?_
  have hpending : rig.session.pending (.fresh .initial "") = rig.session.buffer.size := by
    rw [hr.tracks.pending_eq, hr.tracks.buffer.size, stream_length, History.pending]
    exact congrArg _ (Nat.max_eq_left (Nat.zero_le _))
  rw [h0, ← hpending, hr.tracks.isFull_iff]
  rfl

theorem Following.refused (hr : rig.Following h) (hs : rig.Stuck setup.limits)
    {r : Request String} (hp : r.position = rig.client.position) (reply : Reply π) :
    ∃ limit, (rig.session.step setup r reply).result = .error (.bufferFull limit) := by
  obtain ⟨h0, hfull⟩ := (hr.stuck_iff setup.limits).mp hs
  rw [← hp] at h0 hfull
  refine hr.tracks.refused_of_full (.inl ?_) (not_owed_initial h0) hfull reply
  rw [h0]
  rfl

/-- No body is answered for a stuck client, even by a handler that always responds. -/
theorem Following.not_answers [Inhabited π] (hr : rig.Following h) (hs : rig.Stuck setup.limits)
    (body : String) : ¬ rig.session.Answers setup rig.client.position body := by
  intro hanswers
  let r : Request String := .fresh rig.client.position body
  obtain ⟨answer, hok⟩ := hanswers r (.fresh default) rfl rfl
  obtain ⟨limit, hrefused⟩ := hr.refused (r := r) hs rfl (.respond (.fresh default))
  rw [hok] at hrefused
  cases hrefused

variable (handler draw)

theorem Following.stuck_step (hr : rig.Following h) (hs : rig.Stuck setup.limits) :
    (rig.step setup handler draw).client.position = rig.client.position ∧
      (rig.step setup handler draw).session = rig.session := by
  obtain ⟨reply, hsession, hreceived⟩ := rig.step_exchange setup handler draw
  obtain ⟨limit, hresult⟩ := hr.refused (r := rig.client.send.1) hs rfl reply
  rw [Session.exchange_outcome] at hsession hreceived
  rw [hresult] at hreceived
  refine ⟨?_, hsession.trans (hr.tracks.step_of_error hresult)⟩
  generalize (rig.step setup handler draw).client = client at hreceived ⊢
  cases hreceived with
  | failed error => rfl

/-- **A stuck client stays stuck**, however often it asks. -/
theorem Following.stuck_run (hr : rig.Following h) (hs : rig.Stuck setup.limits) (n : Nat) :
    (rig.run setup handler draw n).client.position = .initial ∧
      (rig.run setup handler draw n).session = rig.session := by
  induction n generalizing rig h with
  | zero => exact ⟨hs.1, rfl⟩
  | succ n ih =>
    obtain ⟨e, hnext⟩ := hr.step setup handler draw
    obtain ⟨hposition, hsession⟩ := hr.stuck_step handler draw hs
    have hstuck : (rig.step setup handler draw).Stuck setup.limits := by
      rw [Stuck, hposition, hsession]
      exact hs
    obtain ⟨hstays, hkept⟩ := ih hnext hstuck
    exact ⟨hstays, hkept.trans hsession⟩

variable (setup)

theorem Following.run_within (hr : rig.Following h) (hw : rig.session.Within setup.limits)
    (n : Nat) :
    (∃ k, (rig.run setup handler draw n).Following k) ∧
      (rig.run setup handler draw n).session.Within setup.limits := by
  induction n generalizing rig h with
  | zero => exact ⟨⟨h, hr⟩, hw⟩
  | succ n ih =>
    obtain ⟨e, hnext⟩ := hr.step setup handler draw
    obtain ⟨reply, hsession, -⟩ := rig.step_exchange setup handler draw
    have hkept := hr.tracks.within_step hw rig.client.send.1 reply
    rw [← Session.exchange_outcome, ← hsession] at hkept
    exact ih hnext hkept

end Rig

/-- **A client can go on unless it is stuck.** A new client of a new session makes `n` requests, as
it likes: whatever the limits of the session, however the handler ends each time it is asked, and
whichever responses the link loses. While positions are left, there is a body with which the client
is answered from where it stands, if the handler responds in case it is asked, exactly if the client
has received something or the buffer has room. A client that is stuck stays so, and the session
changes no more, however often the client asks. -/
theorem answerable_iff_not_stuck [Inhabited π] (setup : Setup) (handler : Handler σ String π)
    (draw : Link ρ) (changeEvery : Nat) (timeout : Duration) (memory : σ) (link : ρ) (n : Nat) :
    let rig : Rig σ ρ π :=
      (Rig.start (.start changeEvery timeout) memory link).run setup handler draw n
    (rig.session.lastPosition.val < wordLimit - 1 →
        ((∃ body, rig.session.Answers setup rig.client.position body) ↔
          ¬ rig.Stuck setup.limits)) ∧
      (rig.Stuck setup.limits → ∀ k,
        (rig.run setup handler draw k).client.position = .initial ∧
          (rig.run setup handler draw k).session = rig.session) := by
  intro rig
  obtain ⟨⟨h, hr⟩, hw⟩ := (Rig.following_start changeEvery timeout memory link).run_within
    setup handler draw (Session.within_start _) n
  refine ⟨fun hlast => ⟨?_, fun hfree => ?_⟩, fun hs k => hr.stuck_run handler draw hs k⟩
  · rintro ⟨body, hanswers⟩ hs
    exact hr.not_answers hs body hanswers
  · rw [hr.stuck_iff, not_and] at hfree
    rw [hr.tracks.lastPosition] at hlast
    obtain ⟨body, hbody⟩ := hr.follows.exists_body hr.tracks hw hfree
    refine ⟨body, fun r response hposition hsame => ?_⟩
    have hroom := hbody r hposition hsame
    rw [← hposition] at hroom
    exact hr.tracks.answered (hposition ▸ hr.follows.known)
      (hroom.imp_right fun hf => ⟨hf, hlast⟩) response

/-- The limit is one response. The first response comes through, the second is lost, and the third
request changes its body and finds the buffer full: yet there is a body to go on with. On a link
that loses everything the client is stuck after its first request, and is so after five more. -/
theorem answerable_iff_not_stuck_of_lost_response :
    let setup : Setup := { (default : Setup) with limits := Limits.standard.withMaxBuffered 1 }
    let handler : Handler Unit String Nat := fun _ _ => (.respond (.fresh 7), ())
    let draw : Link (List Bool) := fun losses => (losses.headD true, losses.tail)
    let rig (losses : List Bool) (n : Nat) : Rig Unit (List Bool) Nat :=
      (Rig.start (.start 3 (.ofMillis 1)) () losses).run setup handler draw n
    (rig [false, true] 3).client.report.errors = 1 ∧
      (rig [false, true] 3).session.lastPosition.val < wordLimit - 1 ∧
      ¬ (rig [false, true] 3).Stuck setup.limits ∧
      (∃ body, (rig [false, true] 3).session.Answers setup
        (rig [false, true] 3).client.position body) ∧
      (rig [] 1).Stuck setup.limits ∧
      ((rig [] 1).run setup handler draw 5).client.position = .initial := by
  intro setup handler draw rig
  have herrors : (rig [false, true] 3).client.report.errors = 1 := by
    decide +kernel
  have hlast : (rig [false, true] 3).session.lastPosition.val < wordLimit - 1 := by
    decide +kernel
  have hfree : ¬ (rig [false, true] 3).Stuck setup.limits := by
    decide +kernel
  have hstuck : (rig [] 1).Stuck setup.limits := by
    decide +kernel
  obtain ⟨hfound, -⟩ :=
    answerable_iff_not_stuck setup handler draw 3 (.ofMillis 1) () [false, true] 3
  obtain ⟨-, hstays⟩ := answerable_iff_not_stuck setup handler draw 3 (.ofMillis 1) () [] 1
  simp only [rig] at herrors hlast hfree hstuck ⊢
  exact ⟨herrors, hlast, hfree, (hfound hlast).mpr hfree, hstuck, (hstays hstuck 5).1⟩

/-- The limit is one response and the first one is lost: the client repeats its request, finds the
buffer full, and then no body at all is answered. -/
theorem stuck_of_lost_response :
    let setup : Setup := { (default : Setup) with limits := Limits.standard.withMaxBuffered 1 }
    let handler : Handler Unit String Nat := fun _ _ => (.respond (.fresh 7), ())
    let lose : Link Unit := fun _ => (true, ())
    let rig : Rig Unit Unit Nat :=
      (Rig.start (.start 0 (.ofMillis 1)) () ()).run setup handler lose 2
    setup.limits.maxBuffered = some 1 ∧ rig.session.lastPosition.val < wordLimit - 1 ∧
      rig.client.report.lost = 1 ∧ rig.client.report.errors = 1 ∧
      ∀ body, ¬ rig.session.Answers setup rig.client.position body := by
  intro setup handler lose rig
  have hlast : rig.session.lastPosition.val < wordLimit - 1 := by
    decide +kernel
  have hreport : rig.client.report.lost = 1 ∧ rig.client.report.errors = 1 := by
    decide +kernel
  have hstuck : rig.Stuck setup.limits := by
    decide +kernel
  obtain ⟨h, hr⟩ : ∃ h, rig.Following h :=
    (Rig.following_start 0 (.ofMillis 1) () ()).run setup handler lose 2
  clear_value rig
  exact ⟨rfl, hlast, hreport.1, hreport.2, hr.not_answers hstuck⟩

end LongPoll
