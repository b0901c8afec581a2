/-
# A client that loses nothing

As long as no response is lost, the client has received everything produced whenever it asks, and
its last answered request was from another position (`History.CaughtUp`). So its request repeats
nothing, whether the body is the same or not, and leaves nothing buffered: it goes to the handler as
it came (`Session.Tracks.plan_of_caughtUp`), and the response goes straight to the client and is all
that stays buffered (`Outcome.Direct`). Then the client has caught up again.

Key definitions: `Handler.responding`, `History.CaughtUp`, `Outcome.Direct`, `Rig.Unbroken`.
Key theorems: `Session.Tracks.plan_of_caughtUp`, `Session.Tracks.finish_direct`,
`History.CaughtUp.answered`, `Rig.Unbroken.served`, `Rig.Unbroken.step`, `Rig.Unbroken.run`,
`answered_at_once`.
-/
import LongPoll.Proofs.EventTrace
import LongPoll.Proofs.Following

namespace LongPoll

open History

variable {β π σ ρ : Type}

/-- A handler that always responds, with a record of what it was asked. -/
def Handler.responding (respond : σ → Invocation β → Response π × σ) :
    Handler (σ × List (Invocation β)) β π :=
  fun (memory, asked) call =>
    let (response, memory) := respond memory call
    (.respond response, memory, asked ++ [call])

/-! ### A request of a client that has caught up -/

namespace History

/-- A client at `p` has received everything produced, and was not answered from there yet. -/
def CaughtUp (h : History β π) (p : Position) : Prop :=
  p.val = newest h ∧ ∀ q ∈ last? h, q.position ≠ p

namespace CaughtUp

variable {h : History β π} {r : Request β} (hc : CaughtUp h r.position)

include hc

theorem known : Known h r.position := by
  rcases Nat.eq_zero_or_pos (newest h) with h0 | hpos
  · exact .inl (hc.1.trans h0)
  · exact .inr (.inl ⟨hpos, .inr hc.1⟩)

theorem pending_eq_zero : pending h r.position = 0 := by
  have hposition := hc.1
  rw [pending]
  omega

theorem not_owed : ¬ Owed h r := by
  rintro ⟨-, -, hleft⟩
  rw [hc.pending_eq_zero] at hleft
  exact Nat.lt_irrefl 0 hleft

theorem not_full {limits : Limits} (hroom : limits.maxBuffered ≠ some 0) :
    ¬ Full h limits r.position := by
  rintro ⟨m, hm, hle⟩
  rw [hc.pending_eq_zero, Nat.le_zero] at hle
  exact hroom (hle ▸ hm)

theorem not_changed : ¬ Changed h r := by
  rintro ⟨-, q, hq, hposition, -⟩
  exact hc.2 q hq hposition

end CaughtUp
end History

/-- What is seen of a request whose response went straight to the device: its place is the only one
buffered, and nothing is told of the call but its end. -/
structure Outcome.Direct (outcome : Outcome β π) (r : Request β) (response : Response π)
    (position : Position) : Prop where
  result : outcome.result = .ok { response with position, txnId := r.txnId }
  buffered : outcome.session.buffer.positions = [position]
  events : ∃ finish, outcome.events = [.finished finish]

namespace Session.Tracks

variable {s : Session β π} {h : History β π} (t : s.Tracks h) {r : Request β} {setup : Setup}

include t

/-- A client that has caught up leaves nothing behind, so its request need not hurry. -/
theorem asked_of_caughtUp (hc : CaughtUp h r.position) (setup : Setup) :
    s.asked setup r = r ∧ ¬ s.Hurries setup r := by
  have hpending : s.pending r = 0 := by rw [t.pending_eq, hc.pending_eq_zero]
  refine ⟨?_, ?_⟩
  · rw [asked, if_neg (by omega)]
  · rw [Hurries, ← pending_eq_size]
    omega

/-- **The request goes to the handler as it came**, and nothing is told of it before. -/
theorem plan_of_caughtUp [DecidableEq β] (hc : CaughtUp h r.position)
    (hroom : setup.limits.maxBuffered ≠ some 0) (hleft : newest h + 1 < wordLimit) :
    ∃ call, s.plan setup r = .invoke call [] ∧ call.request = r ∧
      call.position.val = newest h + 1 := by
  have hv := t.verdict setup r
  generalize hplan : s.plan setup r = plan at hv
  cases hv with
  | unknown hk => exact absurd hc.known hk
  | owed head hk ho hh => exact absurd ho hc.not_owed
  | full limit hk ho hm hl => exact absurd ⟨limit, hm, hl⟩ (hc.not_full hroom)
  | exhausted hk ho hf hn => omega
  | invoked position hk ho hf hp =>
    obtain ⟨hasked, hcalm⟩ := t.asked_of_caughtUp hc setup
    have hnotices : s.notices setup (s.standing r) r = [] := by
      rw [t.notices_eq, if_neg hc.not_changed, if_neg hcalm, List.append_nil]
    refine ⟨⟨s.asked setup r, s.standing r, s.buffer.coveredBy r.position, position⟩, ?_, hasked,
      hp⟩
    rw [hnotices]

/-- **The response goes to the device**: everything before it is acknowledged by the request. -/
theorem finish_direct {call : Invocation β} (hc : CaughtUp h call.request.position)
    (hposition : call.position.val = newest h + 1) (setup : Setup) (response : Response π) :
    (s.finish setup call (.respond response)).Direct call.request response call.position := by
  obtain ⟨hholds, head, hhead, hcommit⟩ :=
    t.commit call hposition (Nat.le_of_eq hc.1) response
  have hcut : max (acked h) call.request.position.val = (stream h).length := by
    rw [stream_length, hc.1]
    exact Nat.max_eq_right t.acked_le
  rw [hcut] at hholds hhead
  rw [List.getElem?_concat_length, Option.some_inj] at hhead
  have hbuffered := hholds.responses
  rw [List.drop_left] at hbuffered
  simp only [finish, hcommit, conclude]
  refine ⟨?_, ?_, ⟨_, rfl⟩⟩
  · rw [hhead]
  · rw [Buffer.positions, hbuffered]
    rfl

end Session.Tracks

/-- A client that receives the one response that its request brought has caught up. -/
theorem History.CaughtUp.answered {h : History β π} {e : Exchange β π}
    (hc : CaughtUp h e.request.position) (he : e.isAnswered = true)
    (hproduced : e.produced.length = 1) {position : Position}
    (hposition : position.val = newest h + 1) : CaughtUp (h ++ [e]) position := by
  refine ⟨?_, ?_⟩
  · rw [newest_concat, hproduced, hposition]
  · rw [last?_concat, if_pos he]
    rintro q ⟨⟩ hsame
    have hfrom := hc.1
    rw [hsame] at hfrom
    omega

/-! ### Steps that lose nothing -/

namespace Client.Received

variable {c client : Client} {result : Except SessionError (Response π)}
  (hc : c.Received result client)

include hc

theorem timeout_eq : client.timeout = c.timeout := by
  cases hc with
  | failed error => rfl
  | lost response => rfl
  | accepted response =>
    unfold accept
    split <;> rfl

theorem lost_le : c.report.lost ≤ client.report.lost := by
  cases hc with
  | failed error => exact Nat.le_refl _
  | lost response => exact Nat.le_succ _
  | accepted response =>
    unfold accept
    split <;> exact Nat.le_refl _

end Client.Received

namespace Rig

variable (setup : Setup) (handler : Handler σ String π) (draw : Link ρ)

theorem run_add (rig : Rig σ ρ π) (m n : Nat) :
    rig.run setup handler draw (m + n) =
      (rig.run setup handler draw m).run setup handler draw n := by
  induction m generalizing rig with
  | zero => rw [Nat.zero_add, run]
  | succ m ih => rw [Nat.succ_add, run, ih, run]

theorem lost_step_le (rig : Rig σ ρ π) :
    rig.client.report.lost ≤ (rig.step setup handler draw).client.report.lost := by
  obtain ⟨reply, -, hreceived⟩ := rig.step_exchange setup handler draw
  exact hreceived.lost_le

theorem lost_run_le (rig : Rig σ ρ π) (n : Nat) :
    rig.client.report.lost ≤ (rig.run setup handler draw n).client.report.lost := by
  induction n generalizing rig with
  | zero => exact Nat.le_refl _
  | succ n ih => exact Nat.le_trans (rig.lost_step_le setup handler draw) (ih _)

/-- The client has caught up with its session. -/
structure Unbroken (timeout : Duration) (rig : Rig σ ρ π) (h : History String π) : Prop where
  tracks : rig.session.Tracks h
  caughtUp : CaughtUp h rig.client.position
  timeout_eq : rig.client.timeout = timeout

theorem unbroken_start (changeEvery : Nat) (timeout : Duration) (memory : σ) (link : ρ) :
    (start (.start changeEvery timeout) memory link : Rig σ ρ π).Unbroken timeout [] where
  tracks := Session.tracks_start
  caughtUp := ⟨rfl, fun _ hq => nomatch hq⟩
  timeout_eq := rfl

namespace Unbroken

variable {setup} (respond : σ → Invocation String → Response π × σ) {timeout : Duration}
  {rig : Rig (σ × List (Invocation String)) ρ π} {h : History String π}
  (hr : rig.Unbroken timeout h) (hroom : setup.limits.maxBuffered ≠ some 0)
  (hleft : newest h + 1 < wordLimit)

include hr hroom hleft

/-- **One request**: the handler is asked once, and its response is the answer. -/
theorem served :
    let request := rig.client.send.1
    let served := rig.session.serve setup (.responding respond) rig.memory request
    ∃ call, call.request = request ∧ call.position.val = newest h + 1 ∧
      served.2 = ((respond rig.memory.1 call).2, rig.memory.2 ++ [call]) ∧
      served.1.Direct request (respond rig.memory.1 call).1 call.position ∧
      ∃ e, Ending rig.session h e ∧ e.request = request ∧ e.produced.length = 1 ∧
        e.outcome = served.1 := by
  intro request served
  obtain ⟨call, hplan, hrequest, hposition⟩ :=
    hr.tracks.plan_of_caughtUp (r := request) hr.caughtUp hroom hleft
  have hserved : served = _ := Session.serve_of_invoke hplan _ rig.memory
  have hcaughtUp : CaughtUp h call.request.position := hrequest ▸ hr.caughtUp
  have hdirect := hr.tracks.finish_direct hcaughtUp hposition setup (respond rig.memory.1 call).1
  rw [hrequest] at hdirect
  have hend := hr.tracks.ending setup request (.respond (respond rig.memory.1 call).1)
  refine ⟨call, hrequest, hposition, ?_, ?_, _, hend, rfl, ?_, ?_⟩
  · rw [hserved]
    rfl
  · rw [hserved, Session.exchange_of_invoke hplan]
    exact ⟨hdirect.result, hdirect.buffered, hdirect.events⟩
  · rw [Session.exchange_of_invoke hplan]
    rfl
  · rw [hserved]
    rfl

/-- **If its response is not lost, the client has caught up again.** -/
theorem step
    (hlost : (rig.step setup (.responding respond) draw).client.report.lost =
      rig.client.report.lost) :
    ∃ e, (rig.step setup (.responding respond) draw).Unbroken timeout (h ++ [e]) ∧
      newest (h ++ [e]) = newest h + 1 := by
  obtain ⟨call, hrequest, hposition, -, hdirect, e, hend, hasked, hproduced, houtcome⟩ :=
    hr.served respond hroom hleft
  obtain ⟨hsession, hreceived⟩ := rig.step_serve setup (.responding respond) draw
  rw [← houtcome] at hsession hreceived
  have hresult := houtcome ▸ hdirect.result
  have htimeout := hreceived.timeout_eq
  have hnext : call.position.val = rig.client.position.val + 1 := by
    rw [hposition, hr.caughtUp.1]
  generalize rig.step setup (.responding respond) draw = next at *
  have hmoved : next.client.position = call.position := by
    rw [hresult] at hreceived
    generalize next.client = client at hreceived hlost ⊢
    cases hreceived with
    | lost response =>
      have hsame : rig.client.report.lost + 1 = rig.client.report.lost := hlost
      omega
    | accepted response => exact Client.position_accept (c := rig.client.send.2) hnext
  have hcaughtUp : CaughtUp h e.request.position := hasked ▸ hr.caughtUp
  refine ⟨e, ⟨hsession ▸ hr.tracks.concat hend, ?_, htimeout.trans hr.timeout_eq⟩, ?_⟩
  · rw [hmoved]
    exact hcaughtUp.answered (Exchange.isAnswered_of_ok hresult) hproduced hposition
  · rw [newest_concat, hproduced]

omit hleft in
/-- **However many requests**, if none of their responses is lost. -/
theorem run (n : Nat) (hleft : newest h + n < wordLimit)
    (hlost : (rig.run setup (.responding respond) draw n).client.report.lost =
      rig.client.report.lost) :
    ∃ k, (rig.run setup (.responding respond) draw n).Unbroken timeout (h ++ k) ∧
      newest (h ++ k) = newest h + n := by
  induction n generalizing rig h with
  | zero => exact ⟨[], by rwa [List.append_nil], by rw [List.append_nil, Nat.add_zero]⟩
  | succ n ih =>
    have hfirst := rig.lost_step_le setup (.responding respond) draw
    have hrest := (rig.step setup (.responding respond) draw).lost_run_le setup
      (.responding respond) draw n
    rw [Rig.run] at hlost
    obtain ⟨e, hnext, hone⟩ := hr.step draw respond hroom (by omega) (by omega)
    obtain ⟨k, hend, hmore⟩ := ih hnext (by omega) (by omega)
    refine ⟨[e] ++ k, ?_, ?_⟩
    · rw [← List.append_assoc]
      exact hend
    · rw [← List.append_assoc, hmore, hone]
      omega

end Unbroken
end Rig

/-- **Without losses every request is answered at once.** A new client of a new session makes `n`
requests, less than 2^64, whatever its timeout and however often its body changes, and no response
is lost. The handler always responds, and the limits leave room for a response. Then for the request
that follows `k` others the handler is asked once, with the request as it came and the client's
whole timeout, and the answer is what it responds, at position `k + 1` and under the request's own
transaction id. That response is all that stays buffered, and nothing is told of the request but
that it finished. -/
theorem answered_at_once (setup : Setup) (respond : σ → Invocation String → Response π × σ)
    (draw : Link ρ) (changeEvery : Nat) (timeout : Duration) (memory : σ) (link : ρ) (n : Nat)
    (hn : n < wordLimit) (hroom : setup.limits.maxBuffered ≠ some 0) :
    let handler := Handler.responding respond
    let rig (k : Nat) : Rig (σ × List (Invocation String)) ρ π :=
      (Rig.start (.start changeEvery timeout) (memory, []) link).run setup handler draw k
    (rig n).client.report.lost = 0 → ∀ k < n,
      let request := (rig k).client.send.1
      let outcome := ((rig k).session.serve setup handler (rig k).memory request).1
      ∃ call position finish,
        (rig (k + 1)).memory =
            ((respond (rig k).memory.1 call).2, (rig k).memory.2 ++ [call]) ∧
          call.request = request ∧ request.timeout = timeout ∧ position.val = k + 1 ∧
          outcome.result = .ok
            { (respond (rig k).memory.1 call).1 with position, txnId := request.txnId } ∧
          (rig (k + 1)).session.buffer.positions = [position] ∧
          outcome.events = [.finished finish] := by
  intro handler rig hlost k hk request outcome
  let first : Rig (σ × List (Invocation String)) ρ π :=
    Rig.start (.start changeEvery timeout) (memory, []) link
  have hkept : (rig k).client.report.lost = 0 := by
    have hrest := (rig k).lost_run_le setup handler draw (n - k)
    rw [← Rig.run_add, Nat.add_sub_cancel' (Nat.le_of_lt hk)] at hrest
    exact Nat.le_zero.mp (hlost ▸ hrest)
  have hstart : first.Unbroken timeout [] :=
    Rig.unbroken_start changeEvery timeout (memory, []) link
  have hfits : newest ([] : History String π) + k < wordLimit := by
    simp [newest, produced]
    omega
  obtain ⟨h, hr, hnewest⟩ := hstart.run draw respond hroom k hfits hkept
  have hcount : newest h = k := by simpa [newest, produced] using hnewest
  obtain ⟨call, hrequest, hposition, hmemory, hdirect, -⟩ :=
    hr.served respond hroom (by rw [List.nil_append, hcount]; omega)
  obtain ⟨finish, hevents⟩ := hdirect.events
  have hsucc : rig (k + 1) = (rig k).step setup handler draw := first.run_add setup handler draw k 1
  rw [hsucc]
  refine ⟨call, call.position, finish, hmemory, hrequest, hr.timeout_eq, ?_, hdirect.result,
    hdirect.buffered, hevents⟩
  rw [hposition, List.nil_append, hcount]

section

-- The runs are compared as they stand, and only the kernel computes them.
seal Rig.step

/-- Room for one response, and a body that changes with the second request: the third one repeats
the body of the second, and is answered with a new response all the same. -/
theorem answered_at_once_of_repeated_body :
    let setup : Setup := { (default : Setup) with limits := Limits.standard.withMaxBuffered 1 }
    let respond (n : Nat) (_ : Invocation String) : Response Nat × Nat := (.fresh (n + 1), n + 1)
    let draw : Link Unit := fun link => (false, link)
    let rig (k : Nat) : Rig (Nat × List (Invocation String)) Unit Nat :=
      (Rig.start (.start 2 (.ofSeconds 5)) (0, []) ()).run setup (.responding respond) draw k
    3 < wordLimit ∧ setup.limits.maxBuffered ≠ some 0 ∧ (rig 3).client.report.lost = 0 ∧
      (rig 1).client.send.1.body = (rig 2).client.send.1.body ∧
      ∃ call position,
        (rig 3).memory = (3, (rig 2).memory.2 ++ [call]) ∧
          call.request.timeout = .ofSeconds 5 ∧ position.val = 3 ∧
          (rig 3).session.buffer.positions = [position] := by
  intro setup respond draw rig
  have hlimit : 3 < wordLimit := by
    decide
  have hroom : setup.limits.maxBuffered ≠ some 0 := by
    decide
  have hlost : (rig 3).client.report.lost = 0 := by
    decide +kernel
  have hcalls : (rig 2).memory.1 = 2 := by
    decide +kernel
  obtain ⟨call, position, finish, hmemory, hrequest, htimeout, hposition, -, hbuffered, -⟩ :=
    answered_at_once setup respond draw 2 (.ofSeconds 5) 0 () 3 hlimit hroom hlost 2 (by decide)
  refine ⟨hlimit, hroom, hlost, by decide +kernel, call, position, ?_, ?_, hposition, hbuffered⟩
  · exact hmemory.trans (by rw [hcalls])
  · rw [hrequest]
    exact htimeout

end

end LongPoll
