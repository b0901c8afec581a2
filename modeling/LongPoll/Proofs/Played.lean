/-
# What is played is a run

A stage makes moves in its line, and brings its script along: a handler call ends on the script just
when its reply is a move. So whatever is played, the line is one that moves lead to, the events of
those moves are what the stage has logged, and the script has a record for each reply, which says
whether it was a response (`Playback.Stage.Follows`). A held call is in the handler of the line, and
stays there until the stage itself lets it reply.

Key definitions: `Line.replies`, `Playback.Stage.Follows`.
Key theorems: `Line.Moved.working`, `Playback.Stage.Follows.move`, `Playback.Stage.Follows.finish`,
`Playback.Stage.Follows.steps`.
-/
import LongPoll.Playback
import LongPoll.Proofs.Linearization

namespace LongPoll

variable {β π : Type}

namespace Line

/-- The reply that the handler gives by the move. -/
def Move.reply? : Move β π → Option (Reply π)
  | .reply _ given => some given
  | _ => none

def replies (moves : List (Move β π)) : List (Reply π) := moves.filterMap Move.reply?

theorem replies_concat (moves : List (Move β π)) (m : Move β π) :
    replies (moves ++ [m]) = replies moves ++ m.reply?.toList := by
  rw [replies, List.filterMap_append]
  cases h : m.reply? <;> simp [h, replies]

theorem Moved.working [DecidableEq β] {setup : Setup} {l next : Line β π} {m : Move β π}
    {events : List Event} (hm : Moved setup l m next events) {i : Nat} {call : Invocation β}
    (hi : l.phase? i = some (.inHandler call)) (hnone : m.reply? = none) :
    next.phase? i = some (.inHandler call) := by
  -- another call comes to its next phase
  have hother {k : Line β π} {j : Nat} {old new : Phase β π} (hk : k.calls = l.calls)
      (hp : l.phase? j = some old) (hold : old ≠ .inHandler call) :
      (k.withPhase j new).phase? i = some (.inHandler call) := by
    have hij : i ≠ j := by
      rintro rfl
      exact hold (Option.some_inj.mp (hp.symm.trans hi))
    rw [phase?_withPhase hk hp, if_neg hij, hi]
  cases hm with
  | arrived r =>
    rw [phase?_arrive, if_neg (Nat.ne_of_lt (phase?_lt hi)), hi]
  | found j r replaced hp hold => exact hother rfl hp nofun
  | preempted j r old hp hold => exact hother rfl hp nofun
  | answered j r outcome hp hh hplan => exact hother rfl hp nofun
  | invoked j r planned told hp hh hplan => exact hother rfl hp nofun
  | replied j planned reply hp => cases hnone
  | gone j result hp => exact hother rfl hp nofun
  | released j token result hc => exact hother rfl (phase?_of_call hc) nofun
  | cancelled =>
    rw [cancelInFlight_eq]
    exact hi
  | destroyed =>
    rw [destroy, cancelInFlight_eq]
    exact hi

end Line

theorem Script.calls_take (s : Script) (body : String) : (s.take body).2.calls = s.calls := by
  unfold take
  split <;> rfl

namespace Playback.Stage

/-- The stage follows a run of moves: `past` was told before the log began, and the script has a
record of each reply. -/
structure Follows (past : List Event) (s : Stage) : Prop where
  run : ∃ moves, Line.Run s.setup moves s.line (past ++ s.log.events) ∧
    s.script.calls.map (·.succeeded) = (Line.replies moves).map Reply.succeeded
  held : ∀ h, s.held = some h → s.line.phase? h.call = some (.inHandler h.invocation)

/-- While nothing is held, only the run matters. -/
theorem follows_of_free {past : List Event} {s : Stage} (hheld : s.held = none)
    (hrun : ∃ moves, Line.Run s.setup moves s.line (past ++ s.log.events) ∧
      s.script.calls.map (·.succeeded) = (Line.replies moves).map Reply.succeeded) :
    Follows past s := by
  refine ⟨hrun, fun h hsome => ?_⟩
  rw [hheld] at hsome
  cases hsome

theorem follows_ofScript (setup : Setup) (queue : List Cue) (longPolls : Bool) :
    Follows [] (ofScript setup (.ofQueue queue longPolls)) :=
  follows_of_free rfl ⟨[], .start, rfl⟩

@[simp] theorem held_move (s : Stage) (m : Line.Move String String) :
    (s.move m).held = s.held := by
  unfold move
  split <;> rfl

@[simp] theorem held_close (s : Stage) (i : Nat) : (s.close i).2.held = s.held := by
  unfold close
  dsimp only
  split <;> simp

namespace Follows

variable {past : List Event} {s : Stage} (hs : Follows past s)

include hs

/-- A move that is no reply keeps what is held. -/
theorem move {m : Line.Move String String} (hnone : m.reply? = none) :
    Follows past (s.move m) := by
  unfold Stage.move
  split
  · next line events hmove =>
    obtain ⟨moves, hrun, hcalls⟩ := hs.run
    refine ⟨⟨moves ++ [m], ?_, ?_⟩, fun h hheld => ?_⟩
    · rw [← List.append_assoc]
      exact hrun.concat hmove
    · rw [Line.replies_concat, hnone, Option.toList_none, List.append_nil]
      exact hcalls
    · exact (Line.moved_of_move? hmove).working (hs.held h hheld) hnone
  · exact hs

theorem close (i : Nat) : Follows past (s.close i).2 := by
  have hleft : Follows past ((s.move (.leave i)).move (.release i)) := (hs.move rfl).move rfl
  unfold Stage.close
  dsimp only
  split <;> exact hleft

theorem finish {i : Nat} {call : Invocation String} (hi : s.line.phase? i = some (.inHandler call))
    (hheld : s.held = none) (reply : Reply String) : Follows past (s.finish i call reply).2 := by
  refine close ?_ i
  obtain ⟨moves, hrun, hcalls⟩ := hs.run
  have hmove : s.line.move? s.setup (.reply i reply) =
      some (s.line.reply s.setup i call reply) := by
    simp only [Line.move?, hi]
  unfold Stage.move
  simp only [hmove]
  refine follows_of_free hheld ⟨moves ++ [.reply i reply], ?_, ?_⟩
  · rw [← List.append_assoc]
    exact hrun.concat hmove
  · have hrecord (ended : CallRecord) : (s.script.record ended).calls = s.script.calls ++ [ended] :=
      List.reverse_cons
    rw [hrecord, Line.replies_concat, List.map_append, List.map_append, hcalls]
    rfl

theorem withScript {script : Script} (hcalls : script.calls = s.script.calls) :
    Follows past { s with script } where
  run := by
    obtain ⟨moves, hrun, hreplies⟩ := hs.run
    exact ⟨moves, hrun, hcalls ▸ hreplies⟩
  held := hs.held

theorem note (step : Nat) (answer : Answer) : Follows past (s.note step answer) :=
  ⟨hs.run, hs.held⟩

/-- A call that takes the session is answered, or replies, or is held. -/
theorem serve (hheld : s.held = none) (i k : Nat) : Follows past (s.serve i k).2 := by
  have hacquired : Follows past (s.move (.acquire i)) := hs.move rfl
  have hfree : (s.move (.acquire i)).held = none := by rw [held_move, hheld]
  unfold Stage.serve
  dsimp only
  generalize s.move (.acquire i) = s at hacquired hfree ⊢
  split
  · next call hi =>
    have hcalls := s.script.calls_take call.request.body
    generalize s.script.take call.request.body = taken at hcalls ⊢
    obtain ⟨cue, script⟩ := taken
    have hscript : Follows past { s with script := script.enter } := hacquired.withScript hcalls
    have hparked (parked : Script) (hparked : parked.calls = s.script.calls) (hold : Hold)
        (payload : String) : Follows past
          { s with
            script := parked
            held := some { call := i, step := k, invocation := call, hold, payload } } :=
      ⟨(hacquired.withScript hparked).run, fun h hsome => by cases hsome; exact hi⟩
    cases cue with
    | gate payload => exact hparked script hcalls .gate payload
    | longPoll payload =>
      dsimp only
      split
      · exact hparked script.enter hcalls .longPoll payload
      · exact hscript.finish hi hfree _
    | reply reply => exact hscript.finish hi hfree reply
  · exact hacquired.close i

theorem finishHeld {h : Held} (hheld : s.held = some h) : Follows past (s.finishHeld h) := by
  have hfree : Follows past { s with held := none } := follows_of_free rfl hs.run
  have hended := hfree.finish (hs.held h hheld) rfl (.respond (.fresh h.payload))
  unfold Stage.finishHeld
  generalize Stage.finish _ h.call h.invocation _ = ended at hended ⊢
  exact hended.note h.step ended.1

theorem wake : Follows past s.wake := by
  unfold Stage.wake
  split
  · next h hheld =>
    split
    · exact hs.finishHeld hheld
    · exact hs
  · exact hs

theorem advance : Follows past s.advance := by
  unfold Stage.advance
  split
  · next i k hheld hqueued =>
    have hready : Follows past { s with queued := none } := ⟨hs.run, hs.held⟩
    have hserved := hready.serve hheld i k
    generalize Stage.serve _ i k = served at hserved ⊢
    exact hserved.note k served.1
  · exact hs

theorem release : Follows past s.release.2 := by
  unfold Stage.release
  split
  · next h hheld =>
    split
    · have hentered : Follows past { s with script := s.script.enter } := hs.withScript rfl
      exact (hentered.finishHeld hheld).advance
    · exact hs
  · exact hs

theorem cancelBy {m : Line.Move String String} (hnone : m.reply? = none) :
    Follows past (s.cancelBy m) :=
  (hs.move hnone).wake.advance

theorem request (k : Nat) (ask : Ask) : Follows past (s.request k ask).2 := by
  unfold Stage.request
  split
  · exact hs
  · dsimp only
    have hcalled (r : Request String) (i : Nat) :
        Follows past ((s.move (.arrive r)).move (.preempt i)).wake :=
      ((hs.move rfl).move rfl).wake
    split
    · exact ⟨(hcalled _ _).run, (hcalled _ _).held⟩
    · next hheld => exact (hcalled _ _).serve hheld _ k

/-- **Whatever is done, the stage follows.** -/
theorem act (k : Nat) (action : Action) : Follows past (s.act k action).2 := by
  cases action with
  | request ask => exact hs.request k ask
  | release => exact hs.release
  | cancelInFlight => exact hs.cancelBy rfl
  | destroy => exact hs.cancelBy rfl
  | kill => exact hs.withScript rfl
  | clearScript => exact hs.withScript rfl
  | push => exact hs
  | info => exact hs
  | entered n => exact hs

/-- What was logged before a step is past once the step begins. -/
theorem step (k : Nat) (next : Step) :
    Follows (past ++ s.log.events) (s.step k next).2 := by
  have hrun : ∃ moves, Line.Run s.setup moves s.line (past ++ s.log.events ++ []) ∧
      s.script.calls.map (·.succeeded) = (Line.replies moves).map Reply.succeeded := by
    rw [List.append_nil]
    exact hs.run
  have hready : Follows (past ++ s.log.events)
      { s with
        log := .empty
        script := { s.script with queue := s.script.queue ++ next.script } } :=
    ⟨hrun, hs.held⟩
  exact hready.act k next.action

/-- **Whatever is played, the stage follows**, and what its reports have logged is all that was
told. -/
theorem steps (k : Nat) (plan : List Step) :
    ∃ before, Follows before (s.steps k plan).2 ∧
      before ++ (s.steps k plan).2.log.events =
        past ++ s.log.events ++ (s.steps k plan).1.flatMap (·.log.events) := by
  induction plan generalizing past s k with
  | nil => exact ⟨past, hs, (List.append_nil _).symm⟩
  | cons next rest ih =>
    obtain ⟨before, hrest, hlogged⟩ := ih (hs.step k next) (k + 1)
    refine ⟨before, hrest, hlogged.trans ?_⟩
    rw [Stage.steps, List.flatMap_cons, List.append_assoc (past ++ s.log.events)]
    rfl

end Follows
end Playback.Stage
end LongPoll
