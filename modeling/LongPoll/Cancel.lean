/-
# Cancellation

A token stands for a signal that can be raised once and stays raised. Copies of a token, and a
token that is wrapped in the context of a call and taken out again, stand for the same signal.

Key definitions: `Token`, `RequestContext`, `Signals`, `Signals.create`, `Signals.cancel`,
`Handles`, `Handles.apply`.
-/
namespace LongPoll

/-- Stands for a signal. Two tokens are the same exactly if they stand for the same signal. -/
structure Token where
  signal : Nat
deriving DecidableEq

/-- What a handler sees of the call that it answers: whether it has been cancelled. -/
structure RequestContext where
  token : Token
deriving DecidableEq

/-- The signals made so far, and which of them are raised. -/
structure Signals where
  issued : Nat
  raised : List Nat
deriving DecidableEq

namespace Signals

def none : Signals := { issued := 0, raised := [] }

instance : Inhabited Signals := ⟨none⟩

/-- A token for a signal of its own. -/
def create (s : Signals) : Token × Signals := (⟨s.issued⟩, { s with issued := s.issued + 1 })

def isCancelled (s : Signals) (t : Token) : Bool := s.raised.contains t.signal

/-- Raises the signal; raising it again changes nothing. -/
def cancel (s : Signals) (t : Token) : Signals :=
  if s.isCancelled t then s else { s with raised := t.signal :: s.raised }

theorem isCancelled_cancel (s : Signals) (t u : Token) :
    (s.cancel t).isCancelled u = (u == t || s.isCancelled u) := by
  cases t with | mk a => cases u with | mk b =>
  by_cases h : b = a
  · subst h
    unfold cancel
    split <;> simp_all [isCancelled]
  · unfold cancel
    split <;> simp [isCancelled, h]

theorem isCancelled_cancel_self (s : Signals) (t : Token) : (s.cancel t).isCancelled t = true := by
  rw [isCancelled_cancel, beq_self_eq_true, Bool.true_or]

theorem cancel_of_isCancelled {s : Signals} {t : Token} (h : s.isCancelled t = true) :
    s.cancel t = s := if_pos h

@[simp] theorem issued_cancel (s : Signals) (t : Token) : (s.cancel t).issued = s.issued := by
  unfold cancel
  split <;> rfl

end Signals

/-- Tokens at hand, in the order in which they were got. -/
structure Handles where
  signals : Signals
  tokens : List Token
deriving DecidableEq

namespace Handles

def none : Handles := { signals := .none, tokens := [] }

/-- What can be done with the tokens at hand; a number names one of them. -/
inductive Action
  | create
  | clone (handle : Nat)
  /-- Wraps the token in a context, and takes the token of a copy of that context. -/
  | wrap (handle : Nat)
  | cancel (handle : Nat)
deriving DecidableEq

def add (h : Handles) (t : Token) : Handles := { h with tokens := h.tokens ++ [t] }

/-- Does one action; naming a token that is not at hand does nothing. -/
def apply (h : Handles) : Action → Handles
  | .create =>
    let (token, signals) := h.signals.create
    { signals, tokens := h.tokens ++ [token] }
  | .clone i => (h.tokens[i]?.map h.add).getD h
  | .wrap i => ((h.tokens[i]?.map RequestContext.mk).map fun c => h.add c.token).getD h
  | .cancel i =>
    (h.tokens[i]?.map fun t => { h with signals := h.signals.cancel t }).getD h

def isCancelled (h : Handles) (i : Nat) : Bool :=
  h.tokens[i]?.any h.signals.isCancelled

def same (h : Handles) (i j : Nat) : Bool :=
  h.tokens[i]?.any fun t => h.tokens[j]? == some t

/-- For each token at hand, whether its signal is raised. -/
def cancelled (h : Handles) : List Bool := h.tokens.map h.signals.isCancelled

end Handles
end LongPoll
