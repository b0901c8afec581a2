/-
# A client that follows the stream

A client that is the only one of its session stands at one of two places: at the acknowledged
position, which is 0 or that of its last answered request, or at the position right after it
(`History.Follows`). Both are known, and the answer to a request from there is at the position that
comes next. So a lost response leaves the client at the first place, a received one moves it to the
second, and an error changes nothing (`Rig.Following`): whatever the link loses and however the
handler ends, the client receives every position once and in order.

Key definitions: `History.Follows`, `Client.UpToDate`, `Rig.answer`, `Rig.Following`.
Key theorems: `History.Follows.of_response`, `History.Follows.of_request`,
`History.Follows.answered`, `Client.Received.sums`, `Rig.Following.of_received`,
`Rig.Following.step`, `Rig.Following.run`, `delivered_in_order`.
-/
import LongPoll.Client
import LongPoll.Proofs.Decision
import LongPoll.Proofs.Delivery

namespace LongPoll

open History

variable {β π σ ρ : Type}

/-! ### The place of a client -/

namespace History

/-- A client at `p` is the only one of the history: `p` is what it acknowledged, by its last
answered request if there is one, or what it was delivered last. -/
def Follows (h : History β π) (p : Position) : Prop :=
  (p.val = acked h ∧ (p.val = 0 ∨ ∃ q, last? h = some q ∧ q.position = p)) ∨
    (p.val = acked h + 1 ∧ 0 < newest h)

namespace Follows

variable {h : History β π} {p : Position} {e : Exchange β π} {s : Session β π}

theorem known (hf : Follows h p) : Known h p := by
  rcases hf with ⟨-, h0 | hlast⟩ | ⟨hp, hpos⟩
  · exact .inl h0
  · exact .inr (.inr hlast)
  · exact .inr (.inl ⟨hpos, .inl hp⟩)

theorem failed (hf : Follows h p) (he : e.isAnswered = false) (hp : e.produced = []) :
    Follows (h ++ [e]) p := by
  have hacked : acked (h ++ [e]) = acked h := by simp [acked_concat, he]
  have hlast : last? (h ++ [e]) = last? h := by simp [last?_concat, he]
  have hnewest : newest (h ++ [e]) = newest h := by rw [newest_concat, hp]; rfl
  rwa [Follows, hacked, hlast, hnewest]

theorem of_response (hend : Ending s h e) (t : s.Tracks h) {response : Response π}
    (hr : e.outcome.result = .ok response) : Follows (h ++ [e]) response.position := by
  obtain ⟨hlen, -⟩ := List.getElem?_eq_some_iff.mp (hend.delivered hr).1
  rw [stream_length] at hlen
  exact .inr ⟨hend.delivered_position t hr, by omega⟩

/-- Whoever was answered follows, if it is not behind what was acknowledged before. -/
theorem of_request {response : Response π} (hr : e.outcome.result = .ok response)
    (hle : acked h ≤ e.request.position.val) : Follows (h ++ [e]) e.request.position := by
  have he := Exchange.isAnswered_of_ok hr
  refine .inl ⟨?_, .inr ⟨e.request, ?_, rfl⟩⟩
  · rw [acked_concat, if_pos he]
    omega
  · rw [last?_concat, if_pos he]

theorem acked_le (hf : Follows h p) : acked h ≤ p.val := by
  rcases hf with ⟨hp, -⟩ | ⟨hp, -⟩ <;> omega

/-- A client is at most one response ahead of what is acknowledged. -/
theorem le_acked_succ (hf : Follows h p) : p.val ≤ acked h + 1 := by
  rcases hf with ⟨hp, -⟩ | ⟨hp, -⟩ <;> omega

/-- **The client is answered at the next position.** If the answer is lost the client stays where
it is, and if it comes through the client moves to it; either way it follows. -/
theorem answered (hf : Follows h p) (t : s.Tracks h) (hend : Ending s h e)
    (hp : e.request.position = p) {response : Response π}
    (hr : e.outcome.result = .ok response) :
    response.position.val = p.val + 1 ∧ Follows (h ++ [e]) p ∧
      Follows (h ++ [e]) response.position := by
  have hle : acked h ≤ e.request.position.val := hp ▸ hf.acked_le
  refine ⟨?_, hp ▸ of_request hr hle, of_response hend t hr⟩
  rw [hend.delivered_position t hr, acked_concat, if_pos (Exchange.isAnswered_of_ok hr), ← hp]
  omega

end Follows
end History

/-! ### What the client has received -/

namespace Client

/-- What becomes of a client when the result of its request comes back. -/
inductive Received (c : Client) : Except SessionError (Response π) → Client → Prop
  | failed (error : SessionError) :
    Received c (.error error) { c with report := { c.report with errors := c.report.errors + 1 } }
  | lost (response : Response π) :
    Received c (.ok response) { c with report := { c.report with lost := c.report.lost + 1 } }
  | accepted (response : Response π) : Received c (.ok response) (c.accept response.position)

theorem received (draw : Link ρ) (c : Client) (link : ρ)
    (result : Except SessionError (Response π)) :
    c.Received result (c.receive draw link result).1 := by
  cases result with
  | error error => exact .failed error
  | ok response =>
    rw [receive]
    rcases draw link with ⟨lost, link⟩
    cases lost with
    | true => exact .lost response
    | false => exact .accepted response

namespace Received

variable {c client : Client} {result : Except SessionError (Response π)}
  (hc : c.Received result client)

include hc

theorem requests_eq : client.report.requests = c.report.requests := by
  cases hc with
  | failed error => rfl
  | lost response => rfl
  | accepted response =>
    unfold accept
    split <;> rfl

/-- **Where an answer goes**: an error is counted as such, and a response at a new position is lost
or received. -/
theorem sums (hnew : ∀ response, result = .ok response → ¬ response.position ≤ c.position) :
    client.report.errors = c.report.errors + (if result.isOk then 0 else 1) ∧
      client.report.lost + client.report.errors + client.report.received.length =
        c.report.lost + c.report.errors + c.report.received.length + 1 := by
  cases hc with
  | failed error =>
    refine ⟨rfl, ?_⟩
    dsimp only
    omega
  | lost response =>
    refine ⟨rfl, ?_⟩
    dsimp only
    omega
  | accepted response =>
    rw [accept, if_neg (hnew response rfl)]
    exact ⟨rfl, rfl⟩

end Received

theorem not_le_position {c : Client} {p : Position} (hp : p.val = c.position.val + 1) :
    ¬ p ≤ c.position := by
  rw [Position.le_def]
  omega

theorem position_accept {c : Client} {p : Position} (hp : p.val = c.position.val + 1) :
    (c.accept p).position = p := by
  rw [accept, if_neg (not_le_position hp)]

/-- Every position up to the client's own came once and in order. -/
structure UpToDate (c : Client) : Prop where
  gaps : c.report.gaps = 0
  duplicates : c.report.duplicates = 0
  delivered : c.report.delivered.map Position.val = List.range' 1 c.position.val

theorem upToDate_start (changeEvery : Nat) (timeout : Duration) :
    (start changeEvery timeout).UpToDate :=
  ⟨rfl, rfl, rfl⟩

namespace UpToDate

variable {c : Client} (hc : c.UpToDate)

include hc

theorem send : c.send.2.UpToDate := ⟨hc.gaps, hc.duplicates, hc.delivered⟩

theorem fail (errors : Nat) :
    { c with report := { c.report with errors } : Client }.UpToDate :=
  ⟨hc.gaps, hc.duplicates, hc.delivered⟩

theorem lose (lost : Nat) : { c with report := { c.report with lost } : Client }.UpToDate :=
  ⟨hc.gaps, hc.duplicates, hc.delivered⟩

theorem accept {p : Position} (hp : p.val = c.position.val + 1) : (c.accept p).UpToDate := by
  have hnew := not_le_position hp
  have hnext : p = c.position.next := by
    rw [Position.next, Position.next?_eq_some_iff.mpr hp, Option.getD_some]
  refine ⟨?_, ?_, ?_⟩
  · simp only [Client.accept, if_neg hnew, if_pos hnext, hc.gaps]
  · simp only [Client.accept, if_neg hnew, hc.duplicates]
  · rw [delivered_accept, if_neg hnew, position_accept hp, hp, List.map_append, hc.delivered,
      List.range'_1_concat]
    simp [hp, Nat.add_comm]

theorem length_received : c.report.received.length = c.position.val := by
  have hlength := congrArg List.length hc.delivered
  rwa [List.length_map, List.length_range', ClientReport.delivered, List.length_reverse] at hlength

theorem isGapFree : c.report.isGapFree = true := by
  simp [ClientReport.isGapFree, hc.gaps, hc.duplicates, hc.delivered, hc.length_received]

end UpToDate
end Client

/-! ### The client and its session -/

namespace Rig

/-- How the next request of the client ends. -/
def answer (setup : Setup) (handler : Handler σ String π) (rig : Rig σ ρ π) :
    Except SessionError (Response π) :=
  (rig.session.serve setup handler rig.memory rig.client.send.1).1.result

/-- The client is up to date, and follows the history of its session. -/
structure Following (rig : Rig σ ρ π) (h : History String π) : Prop where
  tracks : rig.session.Tracks h
  follows : Follows h rig.client.position
  upToDate : rig.client.UpToDate

theorem following_start (changeEvery : Nat) (timeout : Duration) (memory : σ) (link : ρ) :
    (start (.start changeEvery timeout) memory link : Rig σ ρ π).Following [] where
  tracks := Session.tracks_start
  follows := .inl ⟨rfl, .inl rfl⟩
  upToDate := Client.upToDate_start changeEvery timeout

variable (setup : Setup) (handler : Handler σ String π) (draw : Link ρ)

/-- What the session keeps of a step, and what comes back to the client. -/
theorem step_serve (rig : Rig σ ρ π) :
    let outcome := (rig.session.serve setup handler rig.memory rig.client.send.1).1
    (rig.step setup handler draw).session = outcome.session ∧
      rig.client.send.2.Received outcome.result (rig.step setup handler draw).client :=
  ⟨rfl, rig.client.send.2.received draw rig.link _⟩

/-- A step is one call on the session, whatever the handler remembers, and its result comes back to
the client. -/
theorem step_exchange (rig : Rig σ ρ π) :
    ∃ reply, let e := rig.session.exchange setup rig.client.send.1 reply
      (rig.step setup handler draw).session = e.outcome.session ∧
        rig.client.send.2.Received e.outcome.result (rig.step setup handler draw).client := by
  obtain ⟨reply, hserve⟩ := rig.session.serve_eq_step setup handler rig.memory rig.client.send.1
  rw [← Session.exchange_outcome] at hserve
  have hstep := rig.step_serve setup handler draw
  rw [hserve] at hstep
  exact ⟨reply, hstep⟩

theorem requests_step (rig : Rig σ ρ π) :
    (rig.step setup handler draw).client.report.requests = rig.client.report.requests + 1 := by
  obtain ⟨reply, -, hreceived⟩ := rig.step_exchange setup handler draw
  exact hreceived.requests_eq

theorem requests_run (rig : Rig σ ρ π) (n : Nat) :
    (rig.run setup handler draw n).client.report.requests = rig.client.report.requests + n := by
  induction n generalizing rig with
  | zero => rfl
  | succ n ih =>
    rw [run, ih, requests_step]
    omega

variable {setup handler draw}

theorem Following.answer_ne_unknownPosition {rig : Rig σ ρ π} {h : History String π}
    (hr : rig.Following h) (p : Position) :
    rig.answer setup handler ≠ .error (.unknownPosition p) := by
  obtain ⟨reply, hserve⟩ := rig.session.serve_eq_step setup handler rig.memory rig.client.send.1
  rw [answer, hserve, ← Session.exchange_outcome]
  rw [Ne, (hr.tracks.ruling setup rig.client.send.1 reply).unknownPosition_iff]
  exact fun hunknown => hunknown.1 hr.follows.known

/-- Once the result of its request has come back, the client still follows. -/
theorem Following.of_received {rig next : Rig σ ρ π} {h : History String π} (hr : rig.Following h)
    {e : Exchange String π} {reply : Reply π}
    (he : rig.session.exchange setup rig.client.send.1 reply = e)
    (hsession : next.session = e.outcome.session)
    (hreceived : rig.client.send.2.Received e.outcome.result next.client) :
    next.Following (h ++ [e]) := by
  obtain ⟨t, hf, hc⟩ := hr
  have hend : Ending rig.session h e := he ▸ t.ending setup rig.client.send.1 reply
  have hposition : e.request.position = rig.client.position := he ▸ rfl
  have htracks : next.session.Tracks (h ++ [e]) := hsession ▸ t.concat hend
  suffices hclient : Follows (h ++ [e]) next.client.position ∧ next.client.UpToDate from
    ⟨htracks, hclient.1, hclient.2⟩
  generalize hresult : e.outcome.result = result at hreceived
  generalize next.client = client at hreceived ⊢
  cases hreceived with
  | failed error =>
    have hproduced := (hend.of_error hresult).2
    exact ⟨hf.failed (Exchange.isAnswered_of_error hresult) hproduced, hc.send.fail _⟩
  | lost response =>
    obtain ⟨-, hstay, -⟩ := hf.answered t hend hposition hresult
    exact ⟨hstay, hc.send.lose _⟩
  | accepted response =>
    obtain ⟨hnext, -, hmove⟩ := hf.answered t hend hposition hresult
    refine ⟨?_, hc.send.accept hnext⟩
    rwa [Client.position_accept (c := rig.client.send.2) hnext]

variable (setup handler draw)

theorem Following.step {rig : Rig σ ρ π} {h : History String π} (hr : rig.Following h) :
    ∃ e, (rig.step setup handler draw).Following (h ++ [e]) := by
  obtain ⟨reply, hsession, hreceived⟩ := rig.step_exchange setup handler draw
  exact ⟨_, hr.of_received rfl hsession hreceived⟩

/-- However many requests, the client still follows. -/
theorem Following.run {rig : Rig σ ρ π} {h : History String π} (hr : rig.Following h) (n : Nat) :
    ∃ k, (rig.run setup handler draw n).Following (h ++ k) := by
  induction n generalizing rig h with
  | zero => exact ⟨[], by rwa [List.append_nil]⟩
  | succ n ih =>
    obtain ⟨e, hnext⟩ := hr.step setup handler draw
    obtain ⟨k, hrest⟩ := ih hnext
    exact ⟨e :: k, by rwa [List.append_assoc] at hrest⟩

end Rig

/-- **A lossy link delivers in order.** A new client of a new session makes `n` requests, whatever
its timeout, however often its body changes, whatever the limits of the session, however the handler
ends each time it is asked, and whichever responses the link loses. No request is refused for its
position, no position comes twice or is skipped, and those delivered are 1, 2, 3, … up to the
client's own. -/
theorem delivered_in_order (setup : Setup) (handler : Handler σ String π) (draw : Link ρ)
    (changeEvery : Nat) (timeout : Duration) (memory : σ) (link : ρ) (n : Nat) :
    let rig (k : Nat) : Rig σ ρ π :=
      (Rig.start (.start changeEvery timeout) memory link).run setup handler draw k
    let report := (rig n).client.report
    (∀ k p, (rig k).answer setup handler ≠ .error (.unknownPosition p)) ∧
      report.gaps = 0 ∧ report.duplicates = 0 ∧
      report.delivered.map Position.val = List.range' 1 (rig n).client.position.val ∧
      report.isGapFree = true := by
  intro rig report
  have hfollowing (k : Nat) : ∃ h, (rig k).Following h :=
    (Rig.following_start changeEvery timeout memory link).run setup handler draw k
  obtain ⟨h, hn⟩ := hfollowing n
  refine ⟨fun k p => ?_, hn.upToDate.gaps, hn.upToDate.duplicates, hn.upToDate.delivered,
    hn.upToDate.isGapFree⟩
  obtain ⟨h', hr⟩ := hfollowing k
  exact hr.answer_ne_unknownPosition p

end LongPoll
