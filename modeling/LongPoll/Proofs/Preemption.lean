/-
# Who cancels whom

Calls are numbered by arrival, and the token of call `i` is the one made `i`-th. The slot holds the
token of the newest call for as long as that call is not over, and nothing afterwards, however late
older calls end (`Line.Orderly.slot`). So the token that a call replaces is that of the call right
before it, unless that one is over; and a call that is not over is either not replaced yet, or its
replacement has arrived and not come to cancel it, or it is cancelled (`Line.Orderly.replaced`).

Key definitions: `Line.Orderly`, `Line.preempts?`, `Line.preempted`.
Key theorems: `Line.Orderly.moved`, `Line.Run.orderly`, `Line.Moved.cancels`,
`Line.nodup_preempted`, `preemption_discipline`.
-/
import LongPoll.Proofs.Moves

namespace LongPoll
variable {β π : Type}

/-! ### A session preempts nobody -/

/-- What is decided of a request before the handler is asked. -/
def Plan.events : Plan β π → List Event
  | answer outcome => outcome.events
  | invoke _ events => events

/-- The session alone is behind the event: no handler, and no other call. -/
def Event.isDecision : Event → Bool
  | unknownPosition _ | replayed _ _ | bodyChanged _ | timeoutShrunk _ _ | bufferFull _
  | finished _ => true
  | preempted | handlerFailed _ _ | handlerPanicked _ => false

namespace Session

theorem isDecision_conclude {setup : Setup} {standing : Standing} {acked : Nat}
    {events : List Event} {s : Session β π} {result : Except SessionError (Response π)}
    (h : ∀ event ∈ events, event.isDecision = true) :
    ∀ event ∈ (conclude setup standing acked events s result).events,
      event.isDecision = true := by
  intro event hmem
  rcases List.mem_append.mp hmem with hmem | hlast
  · exact h event hmem
  · rw [List.mem_singleton.mp hlast]
    rfl

theorem isDecision_notices (setup : Setup) (s : Session β π) (standing : Standing)
    (r : Request β) : ∀ event ∈ s.notices setup standing r, event.isDecision = true := by
  intro event hmem
  rcases eq_of_mem_notices hmem with rfl | ⟨asked, rfl⟩ <;> rfl

theorem isDecision_plan [DecidableEq β] (setup : Setup) (s : Session β π) (r : Request β) :
    ∀ event ∈ (s.plan setup r).events, event.isDecision = true := by
  have hnotices := s.isDecision_notices setup (s.standing r) r
  simp only [plan, consult]
  split
  · exact List.forall_mem_singleton.mpr rfl
  · split
    · exact isDecision_conclude (List.forall_mem_singleton.mpr rfl)
    · split
      · exact isDecision_conclude
          (List.forall_mem_append.mpr ⟨hnotices, List.forall_mem_singleton.mpr rfl⟩)
      · split
        · exact isDecision_conclude hnotices
        · exact hnotices

theorem preempted_notMem_plan [DecidableEq β] (setup : Setup) (s : Session β π) (r : Request β) :
    .preempted ∉ (s.plan setup r).events :=
  fun hmem => nomatch s.isDecision_plan setup r .preempted hmem

theorem preempted_notMem_finish (setup : Setup) (s : Session β π) (call : Invocation β)
    (reply : Reply π) : .preempted ∉ (s.finish setup call reply).events := by
  cases reply <;> simp [finish, conclude]

end Session

namespace Line

/-- The tokens go by the order of arrival, and the slot belongs to the newest call. -/
structure Orderly (l : Line β π) : Prop where
  tokens : l.calls.map (·.token) = (List.range l.calls.length).map Token.mk
  issued : l.signals.issued = l.calls.length
  raised : ∀ t, l.signals.isCancelled t = true → t.signal < l.calls.length
  slot : ∀ t, l.slot = some t ↔
    t.signal + 1 = l.calls.length ∧ ∃ p, l.phase? t.signal = some p ∧ p.isOpen = true
  arrived : ∀ i r t, l.phase? i = some (.arrived r (some t)) → t.signal + 1 = i
  replaced : ∀ i p q, l.phase? i = some p → p.isOpen = true → l.phase? (i + 1) = some q →
    (∃ r, q = .arrived r (some ⟨i⟩)) ∨ l.signals.isCancelled ⟨i⟩ = true

theorem orderly_start : (start : Line β π).Orderly where
  tokens := rfl
  issued := rfl
  raised := nofun
  slot := by simp [start]
  arrived := by simp
  replaced := by simp

namespace Orderly

variable {l k : Line β π} (ho : l.Orderly) {i : Nat}

include ho

theorem token_eq {call : Call β π} (hc : l.calls[i]? = some call) : call.token = ⟨i⟩ := by
  have htoken := congrArg (·[i]?) ho.tokens
  have hlt : i < l.calls.length := (List.getElem?_eq_some_iff.mp hc).1
  simp only [List.getElem?_map, hc, List.getElem?_range hlt, Option.map_some] at htoken
  exact Option.some_inj.mp htoken

theorem isCancelled_eq (i : Nat) : l.isCancelled i = l.signals.isCancelled ⟨i⟩ := by
  rw [isCancelled]
  cases hc : l.calls[i]? with
  | some call => rw [Option.any_some, ho.token_eq hc]
  | none =>
    have hlen : l.calls.length ≤ i := List.getElem?_eq_none_iff.mp hc
    rw [Option.any_none, eq_comm, Bool.eq_false_iff]
    exact fun h => Nat.not_lt_of_le hlen (ho.raised ⟨i⟩ h)

/-! ### What each kind of move keeps -/

/-- The new call takes the slot, and replaces the newest one if that is not over. -/
theorem arrive (r : Request β) : (l.arrive r).Orderly where
  tokens := by simp [Line.arrive, ho.tokens, Signals.create, ho.issued, List.range_succ]
  issued := by simp [Line.arrive, Signals.create, ho.issued]
  raised := fun t ht => by
    have hlt : t.signal < l.calls.length := ho.raised t ht
    simp only [Line.arrive, List.length_append, List.length_singleton]
    omega
  slot := fun t => by
    have hslot : (l.arrive r).slot = some ⟨l.calls.length⟩ := by
      simp [Line.arrive, Signals.create, ho.issued]
    have hlen : (l.arrive r).calls.length = l.calls.length + 1 := by simp [Line.arrive]
    rw [hslot, hlen, phase?_arrive, Option.some_inj]
    constructor
    · rintro rfl
      exact ⟨rfl, _, if_pos rfl, rfl⟩
    · rintro ⟨hlast, -⟩
      rw [← Nat.succ.inj hlast]
  arrived := fun i r' t hp => by
    rw [phase?_arrive] at hp
    split at hp
    · next hi =>
      rw [Option.some_inj, Phase.arrived.injEq] at hp
      exact ((ho.slot t).mp hp.2).1.trans hi.symm
    · exact ho.arrived i r' t hp
  replaced := fun i p q hp hopen hq => by
    rw [phase?_arrive] at hp hq
    split at hq
    · next hi =>
      rw [if_neg (by omega)] at hp
      rw [Option.some_inj] at hq
      have hslot : l.slot = some ⟨i⟩ := (ho.slot ⟨i⟩).mpr ⟨hi, p, hp, hopen⟩
      exact .inl ⟨r, by rw [← hq, hslot]⟩
    · have hlt := phase?_lt hq
      rw [if_neg (by omega)] at hp
      exact ho.replaced i p q hp hopen hq

theorem cancel {t : Token} (ht : t.signal < l.calls.length) :
    { l with signals := l.signals.cancel t }.Orderly where
  tokens := ho.tokens
  issued := by rw [Signals.issued_cancel, ho.issued]
  raised := fun u hu => by
    rw [Signals.isCancelled_cancel, Bool.or_eq_true, beq_iff_eq] at hu
    rcases hu with rfl | hu
    · exact ht
    · exact ho.raised u hu
  slot := ho.slot
  arrived := ho.arrived
  replaced := fun i p q hp hopen hq => by
    refine (ho.replaced i p q hp hopen hq).imp_right fun h => ?_
    rw [Signals.isCancelled_cancel, h, Bool.or_true]

/-- A call comes to its next phase, if that does not end it. What it replaced has to be cancelled
by then. -/
theorem advance {old new : Phase β π} (hcalls : k.calls = l.calls) (hslot : k.slot = l.slot)
    (hsignals : k.signals = l.signals) (hp : l.phase? i = some old)
    (hopen : new.isOpen = old.isOpen) (hnew : ∀ r t, new ≠ .arrived r t)
    (hold : ∀ r t, old = .arrived r (some t) → l.signals.isCancelled t = true) :
    (k.withPhase i new).Orderly := by
  have hphase (j : Nat) : (k.withPhase i new).phase? j = if j = i then some new else l.phase? j :=
    phase?_withPhase hcalls hp new j
  have hlen : (k.withPhase i new).calls.length = l.calls.length := by rw [length_withPhase, hcalls]
  refine ⟨?_, ?_, fun t ht => ?_, fun t => ?_, fun j r t hj => ?_, fun j p q hj hpopen hq => ?_⟩
  · rw [tokens_withPhase, hlen, hcalls, ho.tokens]
  · rw [signals_withPhase, hsignals, hlen, ho.issued]
  · rw [signals_withPhase, hsignals] at ht
    rw [hlen]
    exact ho.raised t ht
  · rw [slot_withPhase, hslot, hlen, ho.slot, hphase]
    by_cases ht : t.signal = i
    · simp [ht, hp, hopen]
    · rw [if_neg ht]
  · rw [hphase] at hj
    split at hj
    · exact absurd (Option.some_inj.mp hj) (hnew r _)
    · exact ho.arrived j r t hj
  · rw [hphase] at hj hq
    rw [signals_withPhase, hsignals]
    -- the phase of call `j` is `p` before, or is as open as `p`
    obtain ⟨p', hp', hp'open⟩ : ∃ p', l.phase? j = some p' ∧ p'.isOpen = true := by
      split at hj
      · next hji =>
        cases hj
        exact ⟨old, hji ▸ hp, hopen ▸ hpopen⟩
      · exact ⟨p, hj, hpopen⟩
    split at hq
    · next hji =>
      refine .inr ?_
      rcases ho.replaced j p' old hp' hp'open (hji ▸ hp) with ⟨r, hr⟩ | hcancelled
      · exact hold r ⟨j⟩ hr
      · exact hcancelled
    · exact ho.replaced j p' q hp' hp'open hq

/-- The newest call clears the slot when it is over; an older one leaves it alone. -/
theorem release {token : Token} {result : Except SessionError (Response π)}
    (hc : l.calls[i]? = some ⟨token, .left result⟩) : (l.release i token result).Orderly := by
  have htoken : token = ⟨i⟩ := ho.token_eq hc
  have hp : l.phase? i = some (.left result) := phase?_of_call hc
  have hphase (j : Nat) : (l.release i token result).phase? j =
      if j = i then some (.closed result) else l.phase? j :=
    phase?_withPhase rfl hp (.closed result) j
  have hlen : (l.release i token result).calls.length = l.calls.length := length_withPhase ..
  have hslot : (l.release i token result).slot = if l.slot = some ⟨i⟩ then none else l.slot := by
    rw [← htoken]
    rfl
  refine ⟨?_, ?_, fun t ht => ?_, fun t => ?_, fun j r t hj => ?_, fun j p q hj hopen hq => ?_⟩
  · rw [hlen, ← ho.tokens]
    exact tokens_withPhase ..
  · rw [hlen]
    exact ho.issued
  · rw [hlen]
    exact ho.raised t ht
  · rw [hslot, hlen, hphase]
    by_cases ht : t.signal = i
    · -- its own token is not in the slot any more
      subst ht
      simp [Phase.isOpen]
    · have hne : l.slot = some ⟨i⟩ → t.signal + 1 ≠ l.calls.length := fun hi => by
        have := ((ho.slot ⟨i⟩).mp hi).1
        simp only at this
        omega
      rw [if_neg ht]
      split
      · next hi => simp [hne hi]
      · exact ho.slot t
  · rw [hphase] at hj
    split at hj
    · cases hj
    · exact ho.arrived j r t hj
  · rw [hphase] at hj hq
    split at hj
    · cases hj
      cases hopen
    · split at hq
      · next hji =>
        rcases ho.replaced j p (.left result) hj hopen (hji ▸ hp) with ⟨r, hr⟩ | hcancelled
        · cases hr
        · exact .inr hcancelled
      · exact ho.replaced j p q hj hopen hq

theorem slot_lt {t : Token} (hs : l.slot = some t) : t.signal < l.calls.length := by
  have := ((ho.slot t).mp hs).1
  omega

theorem cancelInFlight : l.cancelInFlight.Orderly := by
  unfold Line.cancelInFlight
  split
  · next t hs => exact ho.cancel (ho.slot_lt hs)
  · exact ho

theorem destroy : l.destroy.Orderly := by
  obtain ⟨tokens, issued, raised, slot, arrived, replaced⟩ := ho.cancelInFlight
  exact ⟨tokens, issued, raised, slot, arrived, replaced⟩

end Orderly

section
variable [DecidableEq β] {setup : Setup} {l next : Line β π} {m : Move β π} {events : List Event}

/-- **Every move keeps the order.** -/
theorem Orderly.moved (ho : l.Orderly) (hm : Moved setup l m next events) : next.Orderly := by
  cases hm with
  | arrived r => exact ho.arrive r
  | found i r replaced hp hold =>
    refine ho.advance rfl rfl rfl hp rfl nofun fun r' t hr => ?_
    cases hr
    exact hold t rfl
  | preempted i r old hp hold =>
    have hlt := phase?_lt hp
    have hold_lt : old.signal < l.calls.length := by
      have := ho.arrived i r old hp
      omega
    refine (ho.cancel hold_lt).advance rfl rfl rfl hp rfl nofun fun r' t hr => ?_
    cases hr
    exact Signals.isCancelled_cancel_self _ _
  | answered i r outcome hp hh hplan => exact ho.advance rfl rfl rfl hp rfl nofun nofun
  | invoked i r call planned hp hh hplan => exact ho.advance rfl rfl rfl hp rfl nofun nofun
  | replied i call reply hp => exact ho.advance rfl rfl rfl hp rfl nofun nofun
  | gone i result hp => exact ho.advance rfl rfl rfl hp rfl nofun nofun
  | released i token result hc => exact ho.release hc
  | cancelled => exact ho.cancelInFlight
  | destroyed => exact ho.destroy

theorem Run.orderly {moves : List (Move β π)} (hrun : Run setup moves l events) : l.Orderly := by
  induction hrun with
  | start => exact orderly_start
  | concat hrun hmove ih => exact ih.moved (moved_of_move? hmove)

/-! ### Which moves cancel -/

omit [DecidableEq β] in
/-- What is in the slot is cancelled, and nothing else. -/
theorem isCancelled_cancelInFlight (l : Line β π) (t : Token) :
    l.cancelInFlight.signals.isCancelled t = (l.slot == some t || l.signals.isCancelled t) := by
  unfold cancelInFlight
  split
  · next token hs => rw [Signals.isCancelled_cancel, hs, Option.some_beq_some, BEq.comm]
  · next hs => simp [hs]

omit [DecidableEq β] in
theorem isCancelled_destroy (l : Line β π) (t : Token) :
    l.destroy.signals.isCancelled t = (l.slot == some t || l.signals.isCancelled t) :=
  isCancelled_cancelInFlight l t

/-- **Which move cancels a token**: the one by which the call after it preempts it, or one that
cancels what is in the slot, while the token is there. -/
theorem Moved.cancels (hm : Moved setup l m next events) (ho : l.Orderly) {t : Token}
    (hbefore : l.signals.isCancelled t = false) (hafter : next.signals.isCancelled t = true) :
    (m = .preempt (t.signal + 1) ∧ t.signal + 1 < l.calls.length) ∨
      ((m = .cancelInFlight ∨ m = .destroy) ∧ l.slot = some t) := by
  have hsame {signals : Signals} (h : signals.isCancelled t = l.signals.isCancelled t) :
      signals.isCancelled t ≠ true := by
    rw [h, hbefore]
    exact Bool.false_ne_true
  cases hm with
  | preempted i r old hp hold =>
    rw [signals_withPhase, Signals.isCancelled_cancel, hbefore, Bool.or_false, beq_iff_eq] at hafter
    have hi := ho.arrived i r old hp
    rw [← hafter] at hi
    exact .inl ⟨by rw [hi], hi ▸ phase?_lt hp⟩
  | cancelled =>
    rw [isCancelled_cancelInFlight, hbefore, Bool.or_false, beq_iff_eq] at hafter
    exact .inr ⟨.inl rfl, hafter⟩
  | destroyed =>
    rw [isCancelled_destroy, hbefore, Bool.or_false, beq_iff_eq] at hafter
    exact .inr ⟨.inr rfl, hafter⟩
  | _ => exact absurd hafter (hsame rfl)

theorem Moved.isCancelled_mono (hm : Moved setup l m next events) {t : Token}
    (ht : l.signals.isCancelled t = true) : next.signals.isCancelled t = true := by
  cases hm with
  | preempted i r old hp hold =>
    rw [signals_withPhase, Signals.isCancelled_cancel, ht, Bool.or_true]
  | cancelled => rw [isCancelled_cancelInFlight, ht, Bool.or_true]
  | destroyed => rw [isCancelled_destroy, ht, Bool.or_true]
  | _ => exact ht

/-! ### Which tokens are preempted -/

omit [DecidableEq β] in
/-- The token that the move cancels in favour of the call that it is made for. -/
def preempts? (l : Line β π) : Move β π → Option Token
  | .preempt i =>
    match l.phase? i with
    | some (.arrived _ replaced) => replaced.filter fun old => !l.signals.isCancelled old
    | _ => none
  | _ => none

/-- The tokens that are preempted in a run, in this order. -/
def preempted (setup : Setup) (l : Line β π) : List (Move β π) → List Token
  | [] => []
  | m :: rest =>
    (l.preempts? m).toList ++
      match l.move? setup m with
      | some (next, _) => next.preempted setup rest
      | none => []

/-- **A move says that it preempts exactly if it does**, and the token is cancelled by it. -/
theorem Moved.preempts (hm : Moved setup l m next events) :
    events.count .preempted = (l.preempts? m).toList.length ∧
      ∀ t ∈ (l.preempts? m).toList,
        l.signals.isCancelled t = false ∧ next.signals.isCancelled t = true := by
  cases hm with
  | found i r replaced hp hold =>
    have hnone : l.preempts? (.preempt i : Move β π) = none := by
      cases replaced with
      | none => simp [preempts?, hp]
      | some old => simp [preempts?, hp, hold old rfl]
    simp [hnone]
  | preempted i r old hp hold =>
    have hsome : l.preempts? (.preempt i : Move β π) = some old := by simp [preempts?, hp, hold]
    simp [hsome, hold, Signals.isCancelled_cancel]
  | answered i r outcome hp hh hplan =>
    have hquiet := Session.preempted_notMem_plan setup l.session r
    rw [hplan] at hquiet
    exact ⟨List.count_eq_zero_of_not_mem hquiet, nofun⟩
  | invoked i r call planned hp hh hplan =>
    have hquiet := Session.preempted_notMem_plan setup l.session r
    rw [hplan] at hquiet
    exact ⟨List.count_eq_zero_of_not_mem hquiet, nofun⟩
  | replied i call reply hp =>
    have hquiet := Session.preempted_notMem_finish setup l.session call reply
    exact ⟨List.count_eq_zero_of_not_mem hquiet, nofun⟩
  | _ => exact ⟨rfl, nofun⟩

/-- **No token is preempted twice**: once it is, it stays cancelled. -/
theorem nodup_preempted {moves : List (Move β π)} {final : Line β π}
    (h : l.moves? setup moves = some (final, events)) :
    (l.preempted setup moves).Nodup ∧
      events.count .preempted = (l.preempted setup moves).length ∧
      ∀ t ∈ l.preempted setup moves, l.signals.isCancelled t = false := by
  induction moves generalizing l events with
  | nil =>
    cases h
    exact ⟨.nil, rfl, nofun⟩
  | cons m rest ih =>
    simp only [moves?, Option.bind_eq_bind, Option.bind_eq_some_iff, Prod.exists] at h
    obtain ⟨mid, first, hmove, final', later, hrest, hend⟩ := h
    cases hend
    have hm := moved_of_move? hmove
    obtain ⟨hfirst, hpreempts⟩ := hm.preempts
    obtain ⟨hnodup, hcount, huncancelled⟩ := ih hrest
    simp only [preempted, hmove]
    refine ⟨?_, ?_, fun t ht => ?_⟩
    · rw [List.nodup_append]
      refine ⟨by cases l.preempts? m <;> simp, hnodup, fun t ht u hu htu => ?_⟩
      rw [htu] at ht
      exact Bool.false_ne_true ((huncancelled u hu).symm.trans (hpreempts u ht).2)
    · rw [List.count_append, List.length_append, hfirst, hcount]
    · rcases List.mem_append.mp ht with ht | ht
      · exact (hpreempts t ht).1
      · cases hbefore : l.signals.isCancelled t with
        | false => rfl
        | true =>
          have := hm.isCancelled_mono hbefore
          rw [huncancelled t ht] at this
          cases this

/-! ### Cancelling what is in flight -/

omit [DecidableEq β] in
/-- There is something to cancel exactly if a call that is not over gets cancelled. -/
theorem Orderly.canCancel_iff (ho : l.Orderly) : l.canCancel = true ↔
    ∃ i p, l.phase? i = some p ∧ p.isOpen = true ∧ l.isCancelled i = false ∧
      l.cancelInFlight.isCancelled i = true := by
  have hcanCancel : l.canCancel = true ↔
      ∃ t, l.slot = some t ∧ l.signals.isCancelled t = false := by
    simp [canCancel, Option.any_eq_true]
  rw [hcanCancel]
  constructor
  · rintro ⟨t, hslot, ht⟩
    obtain ⟨-, p, hp, hopen⟩ := (ho.slot t).mp hslot
    refine ⟨t.signal, p, hp, hopen, ?_, ?_⟩
    · rw [ho.isCancelled_eq, ht]
    · rw [ho.cancelInFlight.isCancelled_eq, isCancelled_cancelInFlight, hslot, beq_self_eq_true,
        Bool.true_or]
  · rintro ⟨i, p, hp, hopen, hbefore, hafter⟩
    rw [ho.isCancelled_eq] at hbefore
    rw [ho.cancelInFlight.isCancelled_eq, isCancelled_cancelInFlight, hbefore, Bool.or_false,
      beq_iff_eq] at hafter
    exact ⟨⟨i⟩, hafter, hbefore⟩

omit [DecidableEq β] in
theorem cancelInFlight_eq_self (h : l.canCancel = false) : l.cancelInFlight = l := by
  unfold cancelInFlight
  split
  · next t hslot =>
    have ht : l.signals.isCancelled t = true := by simpa [canCancel, hslot] using h
    rw [Signals.cancel_of_isCancelled ht]
  · rfl

end
end Line

/-- **The discipline of preemption.** After any moves of any number of calls:
the slot holds the token of a call that is not over, and nothing once all calls are;
a call that is not over and not the newest is cancelled, unless the call after it has just replaced
its token and not come to cancel it;
the next move cancels a call only if the call right after it preempts it by that move, or if it
cancels what is in flight and that is the call's token, so no other call cancels the newest one;
no token was preempted twice, and there were as many events that say so as tokens preempted;
and what is in flight can be cancelled exactly if that cancels a call that is not over and not
cancelled yet, and otherwise cancelling changes nothing. -/
theorem preemption_discipline [DecidableEq β] (setup : Setup) (moves : List (Line.Move β π))
    (l : Line β π) (events : List Event)
    (h : (Line.start : Line β π).moves? setup moves = some (l, events)) :
    ((∀ t, l.slot = some t →
          ∃ call ∈ l.calls, call.token = t ∧ call.phase.isOpen = true) ∧
        ((∀ call ∈ l.calls, call.phase.isOpen = false) → l.slot = none)) ∧
      (∀ i call next, l.calls[i]? = some call → call.phase.isOpen = true →
        l.calls[i + 1]? = some next →
          (∃ r, next.phase = .arrived r (some call.token)) ∨ l.isCancelled i = true) ∧
      (∀ m l' new, l.move? setup m = some (l', new) →
        ∀ i, l.isCancelled i = false → l'.isCancelled i = true →
          (m = .preempt (i + 1) ∧ i + 1 < l.calls.length) ∨
            ((m = .cancelInFlight ∨ m = .destroy) ∧
              ∃ call, l.calls[i]? = some call ∧ l.slot = some call.token)) ∧
      ((Line.start.preempted setup moves).Nodup ∧
        events.count .preempted = (Line.start.preempted setup moves).length) ∧
      ((l.canCancel = true ↔ ∃ i p, l.phase? i = some p ∧ p.isOpen = true ∧
          l.isCancelled i = false ∧ l.cancelInFlight.isCancelled i = true) ∧
        (l.canCancel = false → l.cancelInFlight = l)) := by
  have ho : l.Orderly := (Line.run_of_moves? h).orderly
  have hslot (t : Token) (ht : l.slot = some t) :
      ∃ call ∈ l.calls, call.token = t ∧ call.phase.isOpen = true := by
    obtain ⟨-, p, hp, hopen⟩ := (ho.slot t).mp ht
    obtain ⟨call, hcall, rfl⟩ := Option.map_eq_some_iff.mp hp
    exact ⟨call, List.mem_of_getElem? hcall, ho.token_eq hcall, hopen⟩
  obtain ⟨hnodup, hcount, -⟩ := Line.nodup_preempted h
  refine ⟨⟨hslot, fun hover => ?_⟩, fun i call next hc hopen hn => ?_,
    fun m l' new hmove i hbefore hafter => ?_, ⟨hnodup, hcount⟩, ho.canCancel_iff,
    Line.cancelInFlight_eq_self⟩
  · rw [Option.eq_none_iff_forall_ne_some]
    intro t ht
    obtain ⟨call, hmem, -, hopen⟩ := hslot t ht
    rw [hover call hmem] at hopen
    cases hopen
  · have hreplaced := ho.replaced i call.phase next.phase (Line.phase?_of_call hc) hopen
      (Line.phase?_of_call hn)
    rwa [ho.token_eq hc, ho.isCancelled_eq]
  · have hm := Line.moved_of_move? hmove
    rw [ho.isCancelled_eq] at hbefore
    rw [(ho.moved hm).isCancelled_eq] at hafter
    refine (hm.cancels ho hbefore hafter).imp_right fun ⟨hcancels, ht⟩ => ⟨hcancels, ?_⟩
    obtain ⟨call, hcall⟩ : ∃ call, l.calls[i]? = some call :=
      ⟨_, List.getElem?_eq_getElem (ho.slot_lt ht)⟩
    exact ⟨call, hcall, by rw [ho.token_eq hcall, ht]⟩

/-- The second call arrives while the first is in the handler, and preempts it. The first ends late,
and the token of the second is still in the slot. -/
theorem preemption_discipline_of_overlap :
    let moves : List (Line.Move Nat Nat) :=
      [.arrive (.fresh .initial 1), .preempt 0, .acquire 0, .arrive (.fresh .initial 2), .preempt 1,
        .reply 0 (.respond (.fresh 10)), .leave 0, .release 0]
    ∃ l events, (Line.start : Line Nat Nat).moves? default moves = some (l, events) ∧
      l.slot = some ⟨1⟩ ∧ (∃ call ∈ l.calls, call.token = ⟨1⟩ ∧ call.phase.isOpen = true) ∧
      l.isCancelled 0 = true ∧ l.isCancelled 1 = false ∧
      (Line.start.preempted default moves).Nodup ∧ events.count .preempted = 1 := by
  intro moves
  have hrun : ((Line.start : Line Nat Nat).moves? default moves).map (fun (l, events) =>
      (l.slot, l.isCancelled 0, l.isCancelled 1, events.count .preempted))
        = some (some ⟨1⟩, true, false, 1) := by
    decide +kernel
  obtain ⟨⟨l, events⟩, h, hfacts⟩ := Option.map_eq_some_iff.mp hrun
  simp only [Prod.mk.injEq] at hfacts
  obtain ⟨hslot, hfirst, hsecond, hcount⟩ := hfacts
  obtain ⟨⟨hopen, -⟩, -, -, ⟨hnodup, -⟩, -⟩ := preemption_discipline default moves l events h
  exact ⟨l, events, h, hslot, hopen _ hslot, hfirst, hsecond, hnodup, hcount⟩

end LongPoll
