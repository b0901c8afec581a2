/-
# Asking again after a lost response

Once a request is answered, it is the last answered one, and the response is the one right after
everything acknowledged (`History.Served`). Sending it again, under any transaction id and with any
timeout, acknowledges nothing new, so it is owed that same response (`History.Served.resend`); and
this stays so while every other call fails. A session never comes to process a retransmit with the
same body: something is always left to replay for it (`Session.Tracks.replay?_ne_none`).

Key definitions: `Request.Resends`, `History.Served`.
Key theorems: `Session.Tracks.replay?_ne_none`, `History.Served.resend`, `History.Served.run`,
`resend_replays`.
-/
import LongPoll.Proofs.Delivery
import LongPoll.Proofs.Failure

namespace LongPoll

open History

variable {β π : Type}

/-- The request `q` asks what `r` asked: from the same position and with the same body. -/
def Request.Resends (q r : Request β) : Prop := q.position = r.position ∧ q.body = r.body

instance [DecidableEq β] (q r : Request β) : Decidable (q.Resends r) :=
  inferInstanceAs (Decidable (q.position = r.position ∧ q.body = r.body))

/-- The last answered request asks what `r` asks, and `response` is the response right after
everything acknowledged. -/
structure History.Served (h : History β π) (r : Request β) (response : Response π) : Prop where
  notInitial : r.position.val ≠ 0
  last : ∃ q, last? h = some q ∧ q.Resends r
  next : (stream h)[acked h]? = some response

theorem Ending.served {s : Session β π} {h : History β π} {e : Exchange β π}
    {response : Response π} (hend : Ending s h e) (hr : e.outcome.result = .ok response)
    (h0 : e.request.position.val ≠ 0) : Served (h ++ [e]) e.request response where
  notInitial := h0
  last := ⟨e.request, by rw [last?_concat, if_pos (Exchange.isAnswered_of_ok hr)], rfl, rfl⟩
  next := (hend.delivered hr).1

/-- **Something is always left to replay** for a retransmit: the request that it repeats is
answered, and never is everything produced acknowledged. -/
theorem Session.Tracks.replay?_ne_none [DecidableEq β] {s : Session β π} {h : History β π}
    (t : s.Tracks h) {q : Request β} (hq : (s.standing q).isRetransmit = true) :
    s.replay? q ≠ none := by
  obtain ⟨-, last, hlast, hposition⟩ := (t.isRetransmit_iff q).mp hq
  have hle : q.position.val ≤ acked h := hposition ▸ last?_le_acked hlast
  have hproduced : 0 < newest h := by
    rw [Nat.pos_iff_ne_zero, Ne, ← t.last_eq_none, hlast]
    exact Option.some_ne_none last
  have hlt := t.acked_lt hproduced
  rw [Ne, replay?_eq_none_iff, t.buffer.size, t.buffer.coveredBy, stream_length]
  omega

namespace History.Served

variable {h : History β π} {r : Request β} {response : Response π} (hs : Served h r response)

include hs

theorem le_acked : r.position.val ≤ acked h := by
  obtain ⟨last, hlast, hposition, -⟩ := hs.last
  exact hposition ▸ last?_le_acked hlast

/-- A request that was served is known, and is still owed its response. -/
theorem owed {q : Request β} (hq : q.Resends r) : Known h q.position ∧ Owed h q := by
  obtain ⟨last, hlast, hposition, hbody⟩ := hs.last
  have hle : q.position.val ≤ acked h := hq.1 ▸ hs.le_acked
  have hlt : acked h < newest h := by
    rw [← stream_length]
    exact (List.getElem?_eq_some_iff.mp hs.next).1
  refine ⟨.inr (.inr ⟨last, hlast, hposition.trans hq.1.symm⟩), ?_,
    ⟨last, hlast, hbody.trans hq.2.symm⟩, ?_⟩
  · rw [hq.1]
    exact hs.notInitial
  · rw [History.pending]
    omega

variable [DecidableEq β] {s : Session β π} (t : s.Tracks h) (setup : Setup) (reply : Reply π)

include t

/-- **A request that is sent again gets the same response**, without the handler, and the session
holds the same responses as before. -/
theorem resend {q : Request β} (hq : q.Resends r) :
    let e := s.exchange setup q reply
    e.outcome.result = .ok response ∧ e.asked = [] ∧
      e.outcome.session.buffer = s.buffer ∧
      e.outcome.session.lastPosition = s.lastPosition := by
  obtain ⟨hknown, howed⟩ := hs.owed hq
  have hmax : max (acked h) q.position.val = acked h := Nat.max_eq_left (hq.1 ▸ hs.le_acked)
  have hcovered : s.buffer.coveredBy q.position = 0 := by
    rw [t.buffer.coveredBy]
    omega
  have hv := t.verdict setup q
  generalize hplan : s.plan setup q = plan at hv
  cases hv with
  | unknown hk => exact absurd hknown hk
  | owed head hk ho hh =>
    rw [hmax, hs.next, Option.some_inj] at hh
    rw [Session.exchange_of_answer hplan, ← hh]
    exact ⟨rfl, rfl, Buffer.acknowledge_eq_self hcovered, rfl⟩
  | full limit hk ho hm hl => exact absurd howed ho
  | exhausted hk ho hf hn => exact absurd howed ho
  | invoked position hk ho hf hp => exact absurd howed ho

/-- A call that fails, or asks the same again, leaves the request served, and the session with the
same responses. -/
theorem step (q : Request β)
    (hquiet : (s.exchange setup q reply).isAnswered = false ∨ q.Resends r) :
    let e := s.exchange setup q reply
    Served (h ++ [e]) r response ∧ e.outcome.session.buffer = s.buffer ∧
      e.outcome.session.lastPosition = s.lastPosition := by
  intro e
  have hrequest : e.request = q := rfl
  rcases hquiet with hfailed | hq
  · obtain ⟨error, hr⟩ := Exchange.exists_error hfailed
    obtain ⟨hsession, hproduced⟩ := (t.ending setup q reply).of_error hr
    refine ⟨⟨hs.notInitial, ?_, ?_⟩, by rw [hsession], by rw [hsession]⟩
    · simpa [last?_concat, e, hfailed] using hs.last
    · simpa [stream_concat_nil hproduced, acked_concat, e, hfailed] using hs.next
  · obtain ⟨hr, hasked, hbuffer, hlast⟩ := hs.resend t setup reply hq
    have hanswered : e.isAnswered = true := Exchange.isAnswered_of_ok hr
    have hproduced : e.produced = [] := Exchange.produced_of_asked_nil hasked
    have hacked : acked (h ++ [e]) = acked h := by
      rw [acked_concat, if_pos hanswered, hrequest, hq.1]
      exact Nat.max_eq_left hs.le_acked
    refine ⟨⟨hs.notInitial, ⟨q, ?_, hq⟩, ?_⟩, hbuffer, hlast⟩
    · rw [last?_concat, if_pos hanswered, hrequest]
    · rw [stream_concat_nil hproduced, hacked, hs.next]

/-- **However often it is sent again**, and whatever fails in between. -/
theorem run (more : List (Request β × Reply π))
    (hquiet : ∀ e ∈ s.history setup more, e.isAnswered = false ∨ e.request.Resends r) :
    ∀ e ∈ s.history setup more,
      (e.outcome.session.buffer = s.buffer ∧
        e.outcome.session.lastPosition = s.lastPosition) ∧
      (e.request.Resends r → e.outcome.result = .ok response ∧ e.asked = []) := by
  induction more generalizing s h with
  | nil =>
    intro e he
    cases he
  | cons call rest ih =>
    obtain ⟨q, reply⟩ := call
    rw [Session.history_cons, ← Session.exchange_outcome] at hquiet ⊢
    rw [List.forall_mem_cons] at hquiet ⊢
    obtain ⟨hserved, hbuffer, hlast⟩ := hs.step t setup reply q hquiet.1
    refine ⟨⟨⟨hbuffer, hlast⟩, fun hq => ?_⟩, fun e he => ?_⟩
    · obtain ⟨hr, hasked, -⟩ := hs.resend t setup reply hq
      exact ⟨hr, hasked⟩
    · have hrest := ih hserved (t.concat (t.ending setup q reply)) hquiet.2 e he
      rwa [hbuffer, hlast] at hrest

end History.Served

/-- **A lost response can be had again.** After any run of calls a request that is not the first of
a session is answered. Then come calls that fail, in any number and for any reason, and among them
the same request again, under any transaction id and with any timeout. Each time it gets the same
response, without the handler; and the buffered responses and the last position stay what they were
throughout. For no retransmit at all, in any session, is there nothing to replay. -/
theorem resend_replays [DecidableEq β] (setup : Setup) (calls : List (Request β × Reply π))
    (r : Request β) (reply : Reply π) (response : Response π) (h0 : r.position.val ≠ 0)
    (hr : ((Session.start.after setup calls).step setup r reply).result = .ok response)
    (more : List (Request β × Reply π)) :
    let s := (Session.start : Session β π).after setup (calls ++ [(r, reply)])
    (∀ e ∈ s.history setup more, e.isAnswered = false ∨ e.request.Resends r) →
      (∀ e ∈ s.history setup more,
        (e.outcome.session.buffer = s.buffer ∧
          e.outcome.session.lastPosition = s.lastPosition) ∧
        (e.request.Resends r → e.outcome.result = .ok response ∧ e.asked = [])) ∧
      ∀ (calls' : List (Request β × Reply π)) (q : Request β),
        let s' := (Session.start : Session β π).after setup calls'
        (s'.standing q).isRetransmit = true → s'.replay? q ≠ none := by
  intro s hquiet
  have t := Session.tracks_after setup calls
  have hend := t.ending setup r reply
  rw [← Session.exchange_outcome] at hr
  have hs : s = ((Session.start.after setup calls).exchange setup r reply).outcome.session := by
    rw [Session.exchange_outcome]
    exact Session.after_append calls [(r, reply)]
  refine ⟨?_, fun calls' q hq => (Session.tracks_after setup calls').replay?_ne_none hq⟩
  rw [hs] at hquiet ⊢
  exact (hend.served hr h0).run (t.concat hend) setup more hquiet

/-- The response to the second request is lost. The device makes up a position, changes its body
and finds the handler down; the request it then sends again gets the second response once more,
under the transaction id that it was made for. -/
theorem resend_replays_after_failures :
    let ask (p : Nat) (body : Nat) (txnId : String) : Request Nat :=
      { Request.fresh (.ofNat p) body with txnId }
    let calls : List (Request Nat × Reply Nat) := [(ask 0 1 "a", .respond (.fresh 10))]
    let s := (Session.start : Session Nat Nat).after default
      (calls ++ [(ask 1 1 "b", .respond (.fresh 20))])
    let more : List (Request Nat × Reply Nat) :=
      [(ask 9 1 "c", .panic .other), (ask 1 2 "d", .fail (.plain "down")),
        (ask 1 1 "e", .panic .other)]
    ((Session.start.after default calls).step default (ask 1 1 "b")
        (.respond (.fresh 20))).result = .ok ⟨.ofNat 2, "b", 20⟩ ∧
      (∀ e ∈ s.history default more, e.isAnswered = false ∨ e.request.Resends (ask 1 1 "b")) ∧
      ∃ e ∈ s.history default more, e.request = ask 1 1 "e" ∧
        e.outcome.result = .ok ⟨.ofNat 2, "b", 20⟩ ∧ e.asked = [] := by
  intro ask calls s more
  have hr : ((Session.start.after default calls).step default (ask 1 1 "b")
      (.respond (.fresh 20))).result = .ok (⟨.ofNat 2, "b", 20⟩ : Response Nat) := by
    apply eq_ok_of_toOption
    decide +kernel
  have hquiet : ∀ e ∈ s.history default more,
      e.isAnswered = false ∨ e.request.Resends (ask 1 1 "b") := by
    decide +kernel
  have hmem : ∃ e ∈ s.history default more, e.request = ask 1 1 "e" := by
    decide +kernel
  obtain ⟨e, he, hrequest⟩ := hmem
  have hreplayed := (resend_replays default calls (ask 1 1 "b") (.respond (.fresh 20)) _
    (by decide) hr more hquiet).1 e he
  obtain ⟨hresult, hasked⟩ := hreplayed.2 (by rw [hrequest]; exact ⟨rfl, rfl⟩)
  exact ⟨hr, hquiet, e, he, hrequest, hresult, hasked⟩

end LongPoll
