/-
# What a move does to a line

A move can be made only at one phase of its call, and brings that call to its next phase; what it
decides on the way are the cases of `Line.Moved`. A run is a list of moves made one after another
from the empty line (`Line.Run`), so what every move keeps holds after every run.

Key definitions: `Line.Phase.isOpen`, `Line.Moved`, `Line.Run`.
Key theorems: `Line.phase?_withPhase`, `Line.moved_of_move?`, `Line.run_of_moves?`.
-/
import LongPoll.Line

namespace LongPoll
namespace Line

variable {β π : Type}

/-- The call is not over: its token may still be in the slot. -/
def Phase.isOpen : Phase β π → Bool
  | closed _ => false
  | arrived _ _ | waiting _ | inHandler _ | served _ | left _ => true

/-! ### The phases of the calls -/

section
variable (l : Line β π) (i : Nat) (p : Phase β π)

@[simp] theorem session_withPhase : (l.withPhase i p).session = l.session := rfl

@[simp] theorem holder_withPhase : (l.withPhase i p).holder = l.holder := rfl

@[simp] theorem slot_withPhase : (l.withPhase i p).slot = l.slot := rfl

@[simp] theorem signals_withPhase : (l.withPhase i p).signals = l.signals := rfl

@[simp] theorem length_withPhase : (l.withPhase i p).calls.length = l.calls.length := by
  simp [withPhase]

@[simp] theorem tokens_withPhase :
    (l.withPhase i p).calls.map (·.token) = l.calls.map (·.token) := by
  apply List.ext_getElem?
  intro j
  simp only [withPhase, List.getElem?_map, List.getElem?_modify]
  split <;> cases l.calls[j]? <;> rfl

end

@[simp] theorem phase?_start (i : Nat) : (start : Line β π).phase? i = none := rfl

variable {l k : Line β π} {i : Nat} {old : Phase β π}

theorem phase?_withPhase (hk : k.calls = l.calls) (hp : l.phase? i = some old) (p : Phase β π)
    (j : Nat) : (k.withPhase i p).phase? j = if j = i then some p else l.phase? j := by
  simp only [phase?, withPhase, List.getElem?_modify, hk] at hp ⊢
  by_cases hj : i = j
  · subst hj
    obtain ⟨call, hcall, -⟩ := Option.map_eq_some_iff.mp hp
    simp [hcall]
  · rw [if_neg fun h => hj h.symm]
    simp [hj]

theorem phase?_arrive (l : Line β π) (r : Request β) (j : Nat) : (l.arrive r).phase? j =
    if j = l.calls.length then some (.arrived r l.slot) else l.phase? j := by
  simp only [phase?, arrive, List.getElem?_append, List.getElem?_singleton]
  rcases Nat.lt_trichotomy j l.calls.length with hj | hj | hj
  · simp [hj, Nat.ne_of_lt hj]
  · simp [hj]
  · have hout : ¬ j < l.calls.length := Nat.not_lt_of_gt hj
    have hdiff : j - l.calls.length ≠ 0 := Nat.sub_ne_zero_of_lt hj
    simp [hout, hdiff, Nat.ne_of_gt hj]

theorem phase?_of_call {call : Call β π} (hc : l.calls[i]? = some call) :
    l.phase? i = some call.phase := by
  rw [phase?, hc, Option.map_some]

theorem phase?_lt {p : Phase β π} (hp : l.phase? i = some p) : i < l.calls.length := by
  obtain ⟨call, hcall, -⟩ := Option.map_eq_some_iff.mp hp
  exact (List.getElem?_eq_some_iff.mp hcall).1

theorem cancelInFlight_eq (l : Line β π) :
    l.cancelInFlight = { l with signals := l.cancelInFlight.signals } := by
  unfold cancelInFlight
  split <;> rfl

variable [DecidableEq β] {setup : Setup}

/-- The cases of a move: at which phase of its call it can be made, and what it comes to. -/
inductive Moved (setup : Setup) (l : Line β π) : Move β π → Line β π → List Event → Prop
  | arrived (r : Request β) : Moved setup l (.arrive r) (l.arrive r) []
  | found (i : Nat) (r : Request β) (replaced : Option Token)
      (hp : l.phase? i = some (.arrived r replaced))
      (hold : ∀ old, replaced = some old → l.signals.isCancelled old = true) :
    Moved setup l (.preempt i) (l.withPhase i (.waiting r)) []
  | preempted (i : Nat) (r : Request β) (old : Token)
      (hp : l.phase? i = some (.arrived r (some old)))
      (hold : l.signals.isCancelled old = false) :
    Moved setup l (.preempt i)
      ({ l with signals := l.signals.cancel old }.withPhase i (.waiting r)) [.preempted]
  | answered (i : Nat) (r : Request β) (outcome : Outcome β π)
      (hp : l.phase? i = some (.waiting r)) (hh : l.holder = none)
      (hplan : l.session.plan setup r = .answer outcome) :
    Moved setup l (.acquire i)
      ({ l with session := outcome.session, holder := some i }.withPhase i
        (.served outcome.result)) outcome.events
  | invoked (i : Nat) (r : Request β) (call : Invocation β) (events : List Event)
      (hp : l.phase? i = some (.waiting r)) (hh : l.holder = none)
      (hplan : l.session.plan setup r = .invoke call events) :
    Moved setup l (.acquire i) ({ l with holder := some i }.withPhase i (.inHandler call)) events
  | replied (i : Nat) (call : Invocation β) (reply : Reply π)
      (hp : l.phase? i = some (.inHandler call)) :
    Moved setup l (.reply i reply)
      ({ l with session := (l.session.finish setup call reply).session }.withPhase i
        (.served (l.session.finish setup call reply).result))
      (l.session.finish setup call reply).events
  | gone (i : Nat) (result : Except SessionError (Response π))
      (hp : l.phase? i = some (.served result)) :
    Moved setup l (.leave i) ({ l with holder := none }.withPhase i (.left result)) []
  | released (i : Nat) (token : Token) (result : Except SessionError (Response π))
      (hc : l.calls[i]? = some ⟨token, .left result⟩) :
    Moved setup l (.release i) (l.release i token result) []
  | cancelled : Moved setup l .cancelInFlight l.cancelInFlight []
  | destroyed : Moved setup l .destroy l.destroy []

/-- **Every move is one of the cases.** -/
theorem moved_of_move? {m : Move β π} {next : Line β π} {events : List Event}
    (h : l.move? setup m = some (next, events)) : Moved setup l m next events := by
  cases m with
  | arrive r =>
    cases h
    exact .arrived r
  | preempt i =>
    simp only [move?] at h
    split at h
    · next r replaced hp =>
      cases replaced with
      | none =>
        cases h
        exact .found i r none hp nofun
      | some old =>
        cases hold : l.signals.isCancelled old with
        | true =>
          simp only [preempt, signals_withPhase, hold, if_true] at h
          cases h
          exact .found i r (some old) hp fun _ ho => by cases ho; exact hold
        | false =>
          simp only [preempt, signals_withPhase, hold] at h
          cases h
          exact .preempted i r old hp hold
    · cases h
  | acquire i =>
    simp only [move?] at h
    split at h
    · next r hp hh =>
      unfold acquire at h
      split at h
      · next outcome hplan =>
        cases h
        exact .answered i r outcome hp hh hplan
      · next call planned hplan =>
        cases h
        exact .invoked i r call _ hp hh hplan
    · cases h
  | reply i reply =>
    simp only [move?] at h
    split at h
    · next call hp =>
      cases h
      exact .replied i call reply hp
    · cases h
  | leave i =>
    simp only [move?] at h
    split at h
    · next result hp =>
      cases h
      exact .gone i result hp
    · cases h
  | release i =>
    simp only [move?] at h
    split at h
    · next token result hc =>
      cases h
      exact .released i token result hc
    · cases h
  | cancelInFlight =>
    cases h
    exact .cancelled
  | destroy =>
    cases h
    exact .destroyed

/-! ### Runs -/

/-- The line after moves one after another, and all that is decided by them. -/
inductive Run (setup : Setup) : List (Move β π) → Line β π → List Event → Prop
  | start : Run setup [] start []
  | concat {moves : List (Move β π)} {l next : Line β π} {events new : List Event} {m : Move β π}
      (hrun : Run setup moves l events) (hmove : l.move? setup m = some (next, new)) :
    Run setup (moves ++ [m]) next (events ++ new)

theorem Run.append {moves more : List (Move β π)} {next : Line β π} {events new : List Event}
    (hrun : Run setup moves l events) (h : l.moves? setup more = some (next, new)) :
    Run setup (moves ++ more) next (events ++ new) := by
  induction more generalizing moves l events new with
  | nil =>
    cases h
    rwa [List.append_nil, List.append_nil]
  | cons m rest ih =>
    simp only [moves?, Option.bind_eq_bind, Option.bind_eq_some_iff, Prod.exists] at h
    obtain ⟨mid, first, hmove, final, later, hrest, hend⟩ := h
    cases hend
    have hnext := ih (hrun.concat hmove) hrest
    rwa [List.append_assoc, List.append_assoc] at hnext

theorem run_of_moves? {moves : List (Move β π)} {events : List Event}
    (h : (Line.start : Line β π).moves? setup moves = some (l, events)) :
    Run setup moves l events :=
  Run.start.append h

end Line
end LongPoll
