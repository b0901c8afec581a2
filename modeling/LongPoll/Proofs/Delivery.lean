/-
# What a session delivers

The stream of a run only ever grows at its end, and so does what is acknowledged. An answered call
delivers the response of the stream right after the largest acknowledged position, its own one
included (`Session.delivered`), so which response a call gets depends on that position alone: the
handler may have returned it many calls ago, and it is under the transaction id of the call that
asked for it then.

Key theorems: `Ending.delivered`, `Session.delivered`, `delivered_content`.
-/
import LongPoll.Proofs.Invariant

namespace LongPoll

open History

variable {β π : Type}

/-- An answered call delivers what comes after everything acknowledged, and it acknowledges at
least the position that it names. -/
theorem Ending.delivered {s : Session β π} {h : History β π} {e : Exchange β π}
    {response : Response π} (hend : Ending s h e) (hr : e.outcome.result = .ok response) :
    (stream (h ++ [e]))[acked (h ++ [e])]? = some response ∧
      e.request.position.val ≤ acked (h ++ [e]) := by
  have hacked : acked (h ++ [e]) = max (acked h) e.request.position.val := by
    simp [acked_concat, Exchange.isAnswered_of_ok hr]
  rw [hacked]
  refine ⟨?_, Nat.le_max_right _ _⟩
  cases hend with
  | failed error herr hs hp =>
    rw [hr] at herr
    cases herr
  | answered head q hok hk hlast hq hpos hbuf hh =>
    rw [hr, Except.ok.injEq] at hok
    rw [hok, hh]

/-- The position that an answered call delivers is the one after everything acknowledged. -/
theorem Ending.delivered_position {s : Session β π} {h : History β π} (t : s.Tracks h)
    {e : Exchange β π} {response : Response π} (hend : Ending s h e)
    (hr : e.outcome.result = .ok response) :
    response.position.val = acked (h ++ [e]) + 1 :=
  (t.concat hend).stream_position (hend.delivered hr).1

namespace History

theorem stream_getElem?_of_take {h : History β π} {k i : Nat} {response : Response π}
    (hi : (stream (h.take k))[i]? = some response) : (stream h)[i]? = some response := by
  obtain ⟨hlen, -⟩ := List.getElem?_eq_some_iff.mp hi
  obtain ⟨rest, hrest⟩ := stream_prefix (h.take k) (h.drop k)
  rw [List.take_append_drop] at hrest
  rw [← hrest, List.getElem?_append_left hlen, hi]

theorem acked_take_mono (h : History β π) {j k : Nat} (hjk : j ≤ k) :
    acked (h.take j) ≤ acked (h.take k) := by
  obtain ⟨rest, hrest⟩ := List.take_prefix_take_left (l := h) hjk
  rw [← hrest, acked_append]
  exact Nat.le_max_left _ _

end History

namespace Session

variable [DecidableEq β] {setup : Setup} {calls : List (Request β × Reply π)} {k : Nat}
  {e : Exchange β π} {response : Response π}

/-- A call in the middle of a run ends as one on a session that tracks the calls before it. -/
theorem ending_of_getElem? (he : (start.history setup calls)[k]? = some e) :
    Ending (start.after setup (calls.take k)) ((start.history setup calls).take k) e := by
  rw [history_getElem?, Option.map_eq_some_iff] at he
  obtain ⟨⟨r, reply⟩, -, rfl⟩ := he
  rw [history_take]
  exact (tracks_after setup (calls.take k)).ending setup r reply

/-- **What an answered call delivers** is already produced, and is the response right after
everything acknowledged. -/
theorem delivered (he : (start.history setup calls)[k]? = some e)
    (hr : e.outcome.result = .ok response) :
    (stream ((start.history setup calls).take (k + 1)))[
        acked ((start.history setup calls).take (k + 1))]? = some response ∧
      e.request.position.val ≤ acked ((start.history setup calls).take (k + 1)) := by
  have hend := ending_of_getElem? he
  have htake : (start.history setup calls).take (k + 1)
      = (start.history setup calls).take k ++ [e] := by
    rw [List.take_add_one, he, Option.toList_some]
  rw [htake]
  exact hend.delivered hr

theorem position_of_stream {i : Nat}
    (hi : (stream (start.history setup calls))[i]? = some response) :
    response.position.val = i + 1 :=
  (tracks_after setup calls).stream_position hi

end Session

/-- **Delivered content.** A call that is answered gets the response after the largest position of
the requests answered so far, its own one included. The payload is the one that the handler
returned for that place of the stream, and the transaction id is of the request it returned it for.
So positions never decrease, each is after the one that was sent, and a position stands for one
response throughout the run. -/
theorem delivered_content [DecidableEq β] (setup : Setup) (calls : List (Request β × Reply π))
    {k : Nat} {e : Exchange β π} {response : Response π}
    (he : ((Session.start : Session β π).history setup calls)[k]? = some e)
    (hr : e.outcome.result = .ok response) :
    let h := (Session.start : Session β π).history setup calls
    let m := acked (h.take (k + 1))
    response.position.val = m + 1 ∧
      (∃ request returned, (produced (h.take (k + 1)))[m]? = some (request, returned) ∧
        response.payload = returned.payload ∧ response.txnId = request.txnId) ∧
      e.request.position < response.position ∧
      ∀ (j : Nat) (e' : Exchange β π) (response' : Response π), h[j]? = some e' →
        e'.outcome.result = .ok response' →
          (k ≤ j → response.position ≤ response'.position) ∧
            (response'.position = response.position → response' = response) := by
  intro h m
  obtain ⟨hresponse, hle⟩ := Session.delivered he hr
  have hpos := Session.position_of_stream (stream_getElem?_of_take hresponse)
  refine ⟨hpos, ?_, ?_, ?_⟩
  · rw [stream_getElem?, Option.map_eq_some_iff] at hresponse
    obtain ⟨⟨request, returned⟩, hproduced, rfl⟩ := hresponse
    exact ⟨request, returned, hproduced, rfl, rfl⟩
  · rw [Position.lt_def, hpos]
    omega
  · intro j e' response' he' hr'
    obtain ⟨hresponse', -⟩ := Session.delivered he' hr'
    have hpos' := Session.position_of_stream (stream_getElem?_of_take hresponse')
    constructor
    · intro hkj
      have hmono : m ≤ acked (h.take (j + 1)) := acked_take_mono h (Nat.succ_le_succ hkj)
      rw [Position.le_def, hpos, hpos']
      exact Nat.succ_le_succ hmono
    · intro hsame
      have hacked : acked (h.take (j + 1)) = m := by
        rw [← Position.val_inj, hpos, hpos'] at hsame
        exact Nat.succ.inj hsame
      have hresponse' := stream_getElem?_of_take hresponse'
      rw [hacked, stream_getElem?_of_take hresponse, Option.some_inj] at hresponse'
      exact hresponse'.symm

/-- A response that waited in the buffer: the handler returns the second one while the device still
gets the first, and the third call delivers it under the transaction id of the second. -/
theorem delivered_content_of_replay :
    let ask (p : Nat) (body : Nat) (txnId : String) : Request Nat :=
      { Request.fresh (.ofNat p) body with txnId }
    let calls : List (Request Nat × Reply Nat) :=
      [(ask 0 1 "a", .respond (.fresh 10)), (ask 0 2 "b", .respond (.fresh 20)),
        (ask 1 2 "c", .panic .other)]
    let h := (Session.start : Session Nat Nat).history default calls
    ∃ (e : Exchange Nat Nat) (response : Response Nat),
      h[2]? = some e ∧ e.outcome.result = .ok response ∧
        response.position.val = acked (h.take 3) + 1 ∧ response.txnId = "b" ∧
        response.payload = 20 := by
  intro ask calls h
  have hresult : h[2]?.bind (·.outcome.result.toOption) = some ⟨.ofNat 2, "b", 20⟩ := by
    decide +kernel
  obtain ⟨e, he, hr⟩ := Option.bind_eq_some_iff.mp hresult
  cases hout : e.outcome.result with
  | error error => simp [hout, Except.toOption] at hr
  | ok response =>
    rw [hout, Except.toOption, Option.some_inj] at hr
    obtain ⟨hpos, -⟩ := delivered_content default calls he hout
    refine ⟨e, response, he, hout, hpos, ?_, ?_⟩ <;> rw [hr]

end LongPoll
