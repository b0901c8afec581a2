/-
# The report of a simulation adds up

The numbers of a report come from four places: the client counts what it sent and what came back,
the handler its calls, the observer what was served from the buffer, and the session knows its last
position and what it buffers. The handler of a simulation always responds, so each request is served
from the buffer, makes one call of the handler, or fails (`Course.shares`); and whatever does not
fail is lost or received (`Client.Received.sums`). With the place of the client relative to what is
acknowledged (`History.Follows`) the numbers agree after every step (`Rig.Counted`).

Key definitions: `Rig.Counted`, `Simulation.Report.Consistent`.
Key theorems: `Course.shares`, `Rig.Counted.step`, `Rig.Counted.run`,
`Simulation.consistent_of_counted`, `simulation_consistent`.
-/
import LongPoll.Proofs.Capacity
import LongPoll.Proofs.Conservation
import LongPoll.Proofs.Following
import LongPoll.Simulation

namespace LongPoll

open History Event

variable {β π ρ : Type}

/-! ### One request -/

def Exchange.failures (e : Exchange β π) : Nat := if e.isAnswered then 0 else 1

/-- **Where a request goes**: if the handler responds whenever it is asked, the request is served
from the buffer, or the handler is asked, or it fails, and only one of these. -/
theorem Course.shares [DecidableEq β] {setup : Setup} {s : Session β π} {h : History β π}
    {e : Exchange β π} (hcourse : Course setup s h e) {response : Response π}
    (hreply : e.reply = .respond response) :
    count .replayed e.outcome.events + e.asked.length + e.failures = 1 := by
  have hq := s.silent_notices setup (s.standing e.request) e.request
  have hfailed {error : SessionError} (hr : e.outcome.result = .error error) : e.failures = 1 := by
    rw [Exchange.failures, Exchange.isAnswered_of_error hr]
    rfl
  have hanswered {head : Response π} (hr : e.outcome.result = .ok head) : e.failures = 0 := by
    rw [Exchange.failures, if_pos (Exchange.isAnswered_of_ok hr)]
  cases hcourse with
  | unknown hk ha hr hev =>
    rw [hev, ha, hfailed hr]
    rfl
  | replayed head hk ho ha hr hev =>
    rw [hev, ha, hanswered hr]
    rfl
  | full limit hk hm ha hr hev =>
    rw [hev, ha, hfailed hr, count_append, hq.count_eq_zero rfl]
    rfl
  | exhausted last hk hn ha hr hev =>
    rw [hev, ha, hfailed hr, count_append, hq.count_eq_zero rfl]
    rfl
  | responded call response head hk ha hreply hr hev =>
    rw [hev, ha, hanswered hr, count_append, hq.count_eq_zero rfl]
    rfl
  | failed call fault error hk ha hfail hr hev =>
    rw [hreply] at hfail
    cases hfail
  | panicked call payload hk ha hpanic hr hev =>
    rw [hreply] at hpanic
    cases hpanic

/-- A handler that responds whenever it is asked lets no request of known position fail, if the
buffer has no bound and a position is left. -/
theorem Course.isAnswered_of_unbounded [DecidableEq β] {setup : Setup} {s : Session β π}
    {h : History β π} {e : Exchange β π} (hcourse : Course setup s h e) {response : Response π}
    (hreply : e.reply = .respond response) (hknown : Known h e.request.position)
    (hfree : setup.limits.maxBuffered = none) (hlast : newest h < wordLimit - 1) :
    e.isAnswered = true := by
  cases hcourse with
  | unknown hk ha hr hev => exact absurd hknown hk
  | replayed head hk ho ha hr hev => exact Exchange.isAnswered_of_ok hr
  | full limit hk hm ha hr hev =>
    rw [hfree] at hm
    cases hm
  | exhausted last hk hn ha hr hev => omega
  | responded call response head hk ha hreply hr hev => exact Exchange.isAnswered_of_ok hr
  | failed call fault error hk ha hfail hr hev =>
    rw [hreply] at hfail
    cases hfail
  | panicked call payload hk ha hpanic hr hev =>
    rw [hreply] at hpanic
    cases hpanic

/-! ### The client, the handler, the observer and the session -/

theorem Simulation.serve_counter (setup : Setup) (s : Session String Nat) (calls : Nat)
    (r : Request String) :
    let e := s.exchange setup r (.respond (.fresh (calls + 1)))
    s.serve setup counter calls r = (e.outcome, calls + e.asked.length) := by
  cases hplan : s.plan setup r with
  | answer outcome =>
    rw [Session.exchange_of_answer hplan]
    simp [Session.serve, hplan]
  | invoke call planned =>
    rw [Session.serve_of_invoke hplan, Session.exchange_of_invoke hplan,
      Session.exchange_of_invoke hplan]
    rfl

theorem Tally.replays_count (t : Tally) (events : List Event) :
    (t.count events).replays = t.replays + Event.count .replayed events := by
  refine congrArg (t.replays + ·) (List.countP_congr fun event _ => ?_)
  cases event <;> rfl

namespace Rig

/-- The numbers of a simulation agree: each request was lost, failed or was received; each was a
call of the handler, served from the buffer, or failed; and each call of the handler brought a
response. Without a bound on the buffer nothing has failed. -/
structure Counted (setup : Setup) (rig : Rig Nat ρ Nat) (h : History String Nat) : Prop extends
    rig.Following h where
  within : rig.session.Within setup.limits
  sent : rig.client.report.requests =
    rig.client.report.lost + rig.client.report.errors + rig.client.report.received.length
  served :
    rig.client.report.requests = rig.memory + rig.tally.replays + rig.client.report.errors
  calls : rig.memory = newest h
  errors : setup.limits.maxBuffered = none → rig.client.report.requests < wordLimit →
    rig.client.report.errors = 0

theorem counted_start (setup : Setup) (changeEvery : Nat) (timeout : Duration) (link : ρ) :
    (start (.start changeEvery timeout) 0 link : Rig Nat ρ Nat).Counted setup [] where
  toFollowing := following_start changeEvery timeout 0 link
  within := Session.within_start _
  sent := rfl
  served := rfl
  calls := rfl
  errors := fun _ _ => rfl

variable (setup : Setup) (draw : Link ρ)

/-- A step with the handler that counts its calls is one call on the session with a response to
what is asked. -/
theorem step_counter (rig : Rig Nat ρ Nat) :
    ∃ response, let e := rig.session.exchange setup rig.client.send.1 (.respond response)
      let next := rig.step setup Simulation.counter draw
      next.session = e.outcome.session ∧ next.memory = rig.memory + e.asked.length ∧
        next.tally = rig.tally.count e.outcome.events ∧
        rig.client.send.2.Received e.outcome.result next.client := by
  have hserve := Simulation.serve_counter setup rig.session rig.memory rig.client.send.1
  refine ⟨.fresh (rig.memory + 1), ?_, ?_, ?_, ?_⟩
  · simp only [step, hserve]
  · simp only [step, hserve]
  · simp only [step, hserve]
  · simp only [step, hserve]
    exact rig.client.send.2.received draw rig.link _

variable {setup} {rig : Rig Nat ρ Nat} {h : History String Nat}

/-- **Every step keeps the numbers in agreement.** -/
theorem Counted.step (hr : rig.Counted setup h) :
    ∃ e, (rig.step setup Simulation.counter draw).Counted setup (h ++ [e]) := by
  obtain ⟨response, hsession, hmemory, htally, hreceived⟩ := rig.step_counter setup draw
  have t : rig.session.Tracks h := hr.tracks
  have hend := t.ending setup rig.client.send.1 (.respond response)
  have hcourse := t.course setup rig.client.send.1 (.respond response)
  have hkept := t.within_step hr.within rig.client.send.1 (.respond response)
  rw [← Session.exchange_outcome] at hkept
  have hreply : (rig.session.exchange setup rig.client.send.1 (.respond response)).reply =
      .respond response :=
    rfl
  have hposition : (rig.session.exchange setup rig.client.send.1 (.respond response)).request =
      rig.client.send.1 :=
    rfl
  generalize he : rig.session.exchange setup rig.client.send.1 (.respond response) = e at *
  have hknown : Known h e.request.position := hposition ▸ hr.follows.known
  have hshares : count .replayed e.outcome.events + e.asked.length + e.failures = 1 :=
    hcourse.shares hreply
  have hproduced : newest (h ++ [e]) = newest h + e.asked.length := by
    rw [newest_concat, Exchange.produced, hreply, List.length_map]
  have hsums := hreceived.sums fun answer hresult =>
    Client.not_le_position (hr.follows.answered t hend (hposition ▸ rfl) hresult).1
  have herrors : (rig.step setup Simulation.counter draw).client.report.errors =
      rig.client.report.errors + e.failures :=
    hsums.1
  have hcame : (rig.step setup Simulation.counter draw).client.report.lost +
        (rig.step setup Simulation.counter draw).client.report.errors +
        (rig.step setup Simulation.counter draw).client.report.received.length =
      rig.client.report.lost + rig.client.report.errors + rig.client.report.received.length + 1 :=
    hsums.2
  have hrequests := rig.requests_step setup Simulation.counter draw
  have hbefore := hr.sent
  have hserved := hr.served
  have hcalls := hr.calls
  refine ⟨e, hr.of_received he hsession hreceived, hsession ▸ hkept, ?_, ?_, ?_, ?_⟩
  · omega
  · rw [htally, Tally.replays_count]
    omega
  · omega
  · intro hfree hlt
    have hnone := hr.errors hfree (by omega)
    have hanswered := hcourse.isAnswered_of_unbounded hreply hknown hfree (by omega)
    rw [herrors, hnone, Exchange.failures, if_pos hanswered]

/-- **However many requests, the numbers agree.** -/
theorem Counted.run (hr : rig.Counted setup h) (n : Nat) :
    ∃ k, (rig.run setup Simulation.counter draw n).Counted setup (h ++ k) := by
  induction n generalizing rig h with
  | zero => exact ⟨[], by rwa [List.append_nil]⟩
  | succ n ih =>
    obtain ⟨e, hnext⟩ := hr.step draw
    obtain ⟨k, hrest⟩ := ih hnext
    exact ⟨e :: k, by rwa [List.append_assoc] at hrest⟩

end Rig

/-! ### The report -/

namespace Simulation

/-- The numbers of a report agree with each other and with the options. -/
structure Report.Consistent (options : Options) (r : Report) : Prop where
  requests : r.requests = options.requests
  sent : r.requests = r.lost + r.errors + r.delivered
  served : r.requests = r.handlerCalls + r.replays + r.errors
  calls : r.handlerCalls = r.lastPosition.val
  delivered_le : r.delivered ≤ r.lastPosition.val
  le_buffered : r.lastPosition.val - r.delivered ≤ r.buffered
  buffered_le : r.buffered ≤ r.lastPosition.val - r.delivered + 1
  within : ∀ m, options.maxBuffered = some m → r.buffered ≤ m
  errors : options.maxBuffered = none → r.errors = 0

variable {options : Options} {draw : Link ρ} {link : ρ}

theorem consistent_of_counted {rig : Rig Nat ρ Nat} {h : History String Nat}
    (hr : rig.Counted (setup options) h)
    (hsent : rig.client.report.requests = options.requests)
    (hlt : options.requests < wordLimit) : (report rig).Consistent options := by
  have t : rig.session.Tracks h := hr.tracks
  have hlast : rig.session.lastPosition.val = newest h := t.lastPosition
  have hsize : rig.session.buffer.size = newest h - acked h := t.size_eq
  have hreceived : rig.client.report.received.length = rig.client.position.val :=
    hr.upToDate.length_received
  have hbehind : acked h ≤ rig.client.position.val := hr.follows.acked_le
  have hahead : rig.client.position.val ≤ acked h + 1 := hr.follows.le_acked_succ
  have hknown : rig.client.position.val ≤ newest h := t.known_le hr.follows.known
  exact
    { requests := hsent
      sent := hr.sent
      served := hr.served
      calls := hr.calls.trans hlast.symm
      delivered_le := by
        dsimp only [report]
        omega
      le_buffered := by
        dsimp only [report]
        omega
      buffered_le := by
        dsimp only [report]
        omega
      within := hr.within
      errors := fun hfree => hr.errors hfree (hsent ▸ hlt) }

/-- Over any link the simulation comes to a report, and it adds up. -/
theorem overLink_consistent (hlt : options.requests < wordLimit) (draw : Link ρ) (link : ρ) :
    ∃ r, overLink options draw link = .ok r ∧ r.Consistent options := by
  obtain ⟨h, hr⟩ := (Rig.counted_start (setup options) options.changeEvery
    ClientConfig.standard.timeout link).run draw options.requests
  have hsent : (rig options draw link).client.report.requests = options.requests := by
    rw [rig, Rig.requests_run]
    exact Nat.zero_add _
  have hgapFree : (report (rig options draw link)).gapFree = true := hr.upToDate.isGapFree
  refine ⟨report (rig options draw link), ?_, consistent_of_counted hr hsent hlt⟩
  unfold overLink
  exact if_pos hgapFree

end Simulation

/-- **The report of a simulation adds up.** Whatever the options, with less than 2^64 requests, and
whichever responses the link loses, a simulation comes to its report: it never finds a gap or a
duplicate. Each request was lost, failed or delivered its response; each was a call of the handler,
served from the buffer, or failed; the handler was called as often as the last position says; no
more was delivered than that, and what was not delivered is still buffered, with at most the last
response that was. No more is buffered than may be, and if there is no bound nothing fails. With a
loss rate in [0, 1] the random link of the seed is such a link. -/
theorem simulation_consistent (options : Simulation.Options)
    (hrequests : options.requests < wordLimit) :
    (∀ {ρ : Type} (draw : Link ρ) (link : ρ),
        ∃ r, Simulation.overLink options draw link = .ok r ∧ r.Consistent options) ∧
      (options.lossRate.isUnit = true →
        ∃ r, Simulation.run options = .ok r ∧ r.Consistent options) := by
  refine ⟨fun draw link => Simulation.overLink_consistent hrequests draw link, fun hunit => ?_⟩
  rw [Simulation.run, if_pos hunit]
  exact Simulation.overLink_consistent hrequests RandomLink.draw _

/-- One response may be buffered. The first comes through and the second is lost; the body changes,
and the other six of eight requests find the buffer full. -/
theorem simulation_consistent_of_full :
    let options : Simulation.Options :=
      { requests := 8, lossRate := .ofDecimal false 2 (-1), changeEvery := 3, seed := 0
        maxBuffered := some 1 }
    let draw : Link (List Bool) := fun losses => (losses.headD false, losses.tail)
    options.requests < wordLimit ∧ options.lossRate.isUnit = true ∧
      (∃ r, Simulation.run options = .ok r ∧ r.Consistent options) ∧
      ∃ r, Simulation.overLink options draw [false, true] = .ok r ∧ r.Consistent options ∧
        r.lost = 1 ∧ r.errors = 6 ∧ r.handlerCalls = 2 ∧ r.delivered = 1 ∧ r.buffered = 1 := by
  intro options draw
  have hrequests : options.requests < wordLimit := by
    decide
  have hunit : options.lossRate.isUnit = true := by
    decide +kernel
  have hnumbers : (Simulation.overLink options draw [false, true]).toOption.map (fun r =>
      (r.lost, r.errors, r.handlerCalls, r.delivered, r.buffered)) = some (1, 6, 2, 1, 1) := by
    decide +kernel
  obtain ⟨hlinks, hrandom⟩ := simulation_consistent options hrequests
  obtain ⟨r, hr, hconsistent⟩ := hlinks draw [false, true]
  rw [hr, Except.toOption, Option.map_some, Option.some_inj] at hnumbers
  simp only [Prod.mk.injEq] at hnumbers
  exact ⟨hrequests, hunit, hrandom hunit, r, hr, hconsistent, hnumbers⟩

end LongPoll
