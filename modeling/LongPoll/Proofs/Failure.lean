/-
# Failed calls leave no trace

A call that fails leaves the session as it was, its acknowledgment included (`step_of_error`). So a
failed call can be left out of a run, and any number of them (`History.without`): the other calls
are seen to go exactly as they went, and the session ends up the same.

Key definition: `History.without`.
Key theorems: `Session.Tracks.step_of_error`, `Session.Tracks.history_without`,
`failed_calls_invisible`.
-/
import LongPoll.Proofs.Invariant

namespace LongPoll

open History

variable {β π : Type}

/-- What was called, and what the handler replies if it is asked. -/
def Exchange.call (e : Exchange β π) : Request β × Reply π := (e.request, e.reply)

theorem Exchange.exists_error {e : Exchange β π} (he : e.isAnswered = false) :
    ∃ error, e.outcome.result = .error error := by
  unfold isAnswered at he
  cases hr : e.outcome.result with
  | error error => exact ⟨error, rfl⟩
  | ok response =>
    rw [hr] at he
    cases he

/-- The history without the failed calls whose places are in `drop`. -/
def History.without (drop : Nat → Bool) : History β π → History β π
  | [] => []
  | e :: rest =>
    let kept := without (fun i => drop (i + 1)) rest
    if drop 0 && !e.isAnswered then kept else e :: kept

namespace Session

variable [DecidableEq β] {s : Session β π} {h : History β π} {setup : Setup}

theorem Tracks.step_of_error (t : s.Tracks h) {r : Request β} {reply : Reply π}
    {error : SessionError} (hr : (s.step setup r reply).result = .error error) :
    (s.step setup r reply).session = s := by
  rw [← exchange_outcome] at hr ⊢
  exact ((t.ending setup r reply).of_error hr).1

/-- **Failed calls can be left out.** The others are seen to go as before, and the session ends up
the same. -/
theorem Tracks.history_without (t : s.Tracks h) (calls : List (Request β × Reply π))
    (drop : Nat → Bool) :
    let kept := (s.history setup calls).without drop
    s.history setup (kept.map Exchange.call) = kept ∧
      s.after setup (kept.map Exchange.call) = s.after setup calls := by
  induction calls generalizing s h drop with
  | nil => exact ⟨rfl, rfl⟩
  | cons call rest ih =>
    obtain ⟨r, reply⟩ := call
    have tnext := t.concat (t.ending setup r reply)
    rw [exchange_outcome] at tnext
    obtain ⟨hhistory, hafter⟩ := ih tnext fun i => drop (i + 1)
    intro kept
    by_cases hdrop : (drop 0 && !(s.exchange setup r reply).isAnswered) = true
    · -- the rest of the run starts from where the failed call started
      have hkept : kept = ((s.step setup r reply).session.history setup rest).without
          fun i => drop (i + 1) := by
        simp only [kept, history_cons, without, if_pos hdrop]
      have hfailed : (s.exchange setup r reply).isAnswered = false := by
        simpa using (Bool.and_eq_true_iff.mp hdrop).2
      obtain ⟨error, hr⟩ := Exchange.exists_error hfailed
      rw [exchange_outcome] at hr
      have hsame := t.step_of_error hr
      rw [hsame] at hkept hhistory hafter
      rw [hkept]
      refine ⟨hhistory, hafter.trans ?_⟩
      simp only [after, List.foldl_cons, hsame]
    · have hkept : kept = s.exchange setup r reply ::
          ((s.step setup r reply).session.history setup rest).without fun i => drop (i + 1) := by
        simp only [kept, history_cons, without, if_neg hdrop]
      have hcall : (s.exchange setup r reply).call = (r, reply) := rfl
      rw [hkept, List.map_cons, hcall]
      refine ⟨?_, ?_⟩
      · rw [history_cons, hhistory]
      · exact hafter

end Session

/-- **Failed calls are invisible.** After any run of calls, a call that fails leaves the session as
it was; and of the run itself any of the failed calls can be left out, without a change to what is
seen of the other calls or to the session at the end. -/
theorem failed_calls_invisible [DecidableEq β] (setup : Setup)
    (calls : List (Request β × Reply π)) :
    let s := (Session.start : Session β π).after setup calls
    let h := (Session.start : Session β π).history setup calls
    (∀ r reply error, (s.step setup r reply).result = .error error →
        (s.step setup r reply).session = s) ∧
      ∀ drop, Session.start.history setup ((h.without drop).map Exchange.call) = h.without drop ∧
        Session.start.after setup ((h.without drop).map Exchange.call) = s := by
  intro s h
  have t : s.Tracks h := Session.tracks_after setup calls
  refine ⟨fun r reply error hr => t.step_of_error hr, fun drop => ?_⟩
  exact Session.tracks_start.history_without calls drop

/-- A request acknowledges the only response, and the handler fails it: the response is still there
and the request is not remembered. -/
theorem failed_calls_invisible_of_handler :
    let s := (Session.start : Session Nat Nat).after default
      [(.fresh .initial 1, .respond (.fresh 10))]
    let outcome := s.step default (.fresh (.ofNat 1) 2) (.fail (.plain "down"))
    outcome.result = .error (.handler (.ofFault (.plain "down"))) ∧ outcome.session = s := by
  intro s outcome
  have hr : outcome.result = .error (.handler (.ofFault (.plain "down"))) := rfl
  exact ⟨hr, (failed_calls_invisible default _).1 _ _ _ hr⟩

end LongPoll
