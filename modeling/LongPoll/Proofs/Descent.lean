/-
# Tokens that descend from one creation

A token at hand was either created for a new signal, or taken from another token at hand, as a copy
of it or out of a context that it was wrapped in. So every token descends from one that was created,
and two stand for the same signal exactly if they descend from the same one
(`Handles.Traced.same_iff`): a new signal is none of those that there are, and what is taken from a
token stands for what that one stands for.

A signal is raised exactly if a token for it was cancelled before (`Handles.isCancelled_after`), by
whatever token that was: tokens that are at hand stay at hand, and nothing takes a signal back.

Key definitions: `Handles.after`, `Handles.Origin`, `Handles.origins`, `Handles.Descends`,
`Handles.Kin`, `Handles.Applied`, `Handles.Traced`.
Key theorems: `Handles.applied`, `Handles.isCancelled_after`, `Handles.Traced.applied`,
`Handles.traced_after`, `Handles.Traced.same_iff`, `handles_of_one_creation`.
-/
import LongPoll.Cancel

namespace LongPoll
namespace Handles

/-! ### Descent -/

/-- What is at hand after several actions. -/
def after (h : Handles) (actions : List Action) : Handles := actions.foldl apply h

/-- Where a token comes from. -/
inductive Origin
  | created
  /-- It is a copy of a token at hand, or comes out of a context around it. -/
  | taken (handle : Nat)
deriving DecidableEq

/-- Notes where the token comes from that an action gets, if it gets one. -/
def note (origins : List Origin) : Action → List Origin
  | .create => origins ++ [.created]
  | .clone i | .wrap i => if i < origins.length then origins ++ [.taken i] else origins
  | .cancel _ => origins

def origins (actions : List Action) : List Origin := actions.foldl note []

/-- Token `i` is the created token `c`, or is taken from a token that descends from it. -/
inductive Descends (origins : List Origin) : Nat → Nat → Prop
  | created {c : Nat} (h : origins[c]? = some .created) : Descends origins c c
  | taken {i j c : Nat} (h : origins[i]? = some (.taken j)) (hj : Descends origins j c) :
    Descends origins i c

/-- Both tokens descend from the same one. -/
def Kin (origins : List Origin) (i j : Nat) : Prop :=
  ∃ c, Descends origins i c ∧ Descends origins j c

/-! ### What an action does -/

def Action.named? : Action → Option Nat
  | .create => .none
  | .clone i | .wrap i | .cancel i => some i

def addNew (h : Handles) : Handles :=
  { signals := { h.signals with issued := h.signals.issued + 1 }
    tokens := h.tokens ++ [⟨h.signals.issued⟩] }

/-- What an action makes of the tokens at hand. -/
inductive Applied (h : Handles) : Action → Handles → Prop
  | created : Applied h .create h.addNew
  | cloned (i : Nat) (t : Token) (ht : h.tokens[i]? = some t) : Applied h (.clone i) (h.add t)
  | wrapped (i : Nat) (t : Token) (ht : h.tokens[i]? = some t) : Applied h (.wrap i) (h.add t)
  | cancelled (i : Nat) (t : Token) (ht : h.tokens[i]? = some t) :
    Applied h (.cancel i) { h with signals := h.signals.cancel t }
  | missing (a : Action) (i : Nat) (ha : a.named? = some i) (hi : h.tokens[i]? = .none) :
    Applied h a h

theorem applied (h : Handles) (a : Action) : h.Applied a (h.apply a) := by
  cases a with
  | create => exact .created
  | clone i =>
    cases hi : h.tokens[i]? with
    | some t => simpa [apply, hi] using Applied.cloned i t hi
    | none => simpa [apply, hi] using Applied.missing (.clone i) i rfl hi
  | wrap i =>
    cases hi : h.tokens[i]? with
    | some t => simpa [apply, hi] using Applied.wrapped i t hi
    | none => simpa [apply, hi] using Applied.missing (.wrap i) i rfl hi
  | cancel i =>
    cases hi : h.tokens[i]? with
    | some t => simpa [apply, hi] using Applied.cancelled i t hi
    | none => simpa [apply, hi] using Applied.missing (.cancel i) i rfl hi

/-- Tokens that are at hand stay at hand, under the same numbers. -/
theorem Applied.isPrefix_tokens {h k : Handles} {a : Action} (ha : h.Applied a k) :
    h.tokens <+: k.tokens := by
  cases ha with
  | created | cloned | wrapped => exact List.prefix_append _ _
  | cancelled | missing => exact List.prefix_refl _

theorem isPrefix_tokens_after (h : Handles) (actions : List Action) :
    h.tokens <+: (h.after actions).tokens := by
  induction actions generalizing h with
  | nil => exact List.prefix_refl _
  | cons a rest ih => exact (h.applied a).isPrefix_tokens.trans (ih (h.apply a))

theorem getElem?_tokens_after {h : Handles} {i : Nat} {t : Token} (ht : h.tokens[i]? = some t)
    (actions : List Action) : (h.after actions).tokens[i]? = some t := by
  obtain ⟨got, hgot⟩ := h.isPrefix_tokens_after actions
  rw [← hgot, List.getElem?_append_left (List.getElem?_eq_some_iff.mp ht).1, ht]

/-! ### Which signals are raised -/

theorem isCancelled_iff_getElem? {h : Handles} {i : Nat} : h.isCancelled i = true ↔
    ∃ t, h.tokens[i]? = some t ∧ h.signals.isCancelled t = true := by
  simp [isCancelled, Option.any_eq_true]

/-- An action raises the signal of the token that it cancels, and no other. -/
theorem Applied.isCancelled_iff {h k : Handles} {a : Action} (ha : h.Applied a k) (t : Token) :
    k.signals.isCancelled t = true ↔
      h.signals.isCancelled t = true ∨ ∃ j, a = .cancel j ∧ h.tokens[j]? = some t := by
  cases ha with
  | created | cloned | wrapped => simp [add, addNew, Signals.isCancelled]
  | cancelled j u hu =>
    show (h.signals.cancel u).isCancelled t = true ↔ _
    rw [Signals.isCancelled_cancel, Bool.or_eq_true, beq_iff_eq, or_comm]
    refine or_congr_right ⟨?_, ?_⟩
    · rintro rfl
      exact ⟨j, rfl, hu⟩
    · rintro ⟨j', hj', ht⟩
      cases hj'
      rw [hu, Option.some_inj] at ht
      exact ht.symm
  | missing a i ha hi =>
    refine (or_iff_left ?_).symm
    rintro ⟨j, rfl, hj⟩
    cases ha
    rw [hi] at hj
    cases hj

/-- **A signal is raised exactly if a token for it was cancelled**, at a time when it was at
hand. -/
theorem isCancelled_after (h : Handles) (actions : List Action) (t : Token) :
    (h.after actions).signals.isCancelled t = true ↔
      h.signals.isCancelled t = true ∨ ∃ before j later,
        actions = before ++ .cancel j :: later ∧ (h.after before).tokens[j]? = some t := by
  induction actions generalizing h with
  | nil => simp [after]
  | cons a rest ih =>
    -- what cancelled the token is the first action, with nothing before it, or one of the others
    show ((h.apply a).after rest).signals.isCancelled t = true ↔ _
    rw [ih, (h.applied a).isCancelled_iff, or_assoc]
    refine or_congr_right ⟨?_, ?_⟩
    · rintro (⟨j, rfl, hj⟩ | ⟨before, j, later, rfl, hj⟩)
      · exact ⟨[], j, rest, rfl, hj⟩
      · exact ⟨a :: before, j, later, rfl, hj⟩
    · rintro ⟨before, j, later, hsplit, hj⟩
      cases before with
      | nil =>
        obtain ⟨rfl, rfl⟩ := List.cons.inj hsplit
        exact .inl ⟨j, rfl, hj⟩
      | cons first before =>
        obtain ⟨rfl, rfl⟩ := List.cons.inj hsplit
        exact .inr ⟨before, j, later, rfl, hj⟩

/-- **What is cancelled stays cancelled**, whatever is done later. -/
theorem isCancelled_mono {h : Handles} {i : Nat} (hi : h.isCancelled i = true)
    (later : List Action) : (h.after later).isCancelled i = true := by
  obtain ⟨t, ht, hraised⟩ := isCancelled_iff_getElem?.mp hi
  exact isCancelled_iff_getElem?.mpr
    ⟨t, getElem?_tokens_after ht later, (isCancelled_after h later t).mpr (.inl hraised)⟩

/-! ### Cancelling a token -/

theorem same_iff_getElem? {h : Handles} {i j : Nat} : h.same i j = true ↔
    ∃ t, h.tokens[i]? = some t ∧ h.tokens[j]? = some t := by
  simp [same, Option.any_eq_true]

theorem tokens_cancel (h : Handles) (i : Nat) : (h.apply (.cancel i)).tokens = h.tokens := by
  cases hi : h.tokens[i]? <;> simp [apply, hi]

theorem cancel_cancel (h : Handles) (i : Nat) :
    (h.apply (.cancel i)).apply (.cancel i) = h.apply (.cancel i) := by
  cases hi : h.tokens[i]? with
  | none => simp [apply, hi]
  | some t =>
    have hraised := h.signals.isCancelled_cancel_self t
    simp [apply, hi, Signals.cancel_of_isCancelled hraised]

/-- Cancelling a token cancels those that stand for the same signal, and no other. -/
theorem isCancelled_cancel_iff (h : Handles) (i j : Nat) :
    (h.apply (.cancel i)).isCancelled j = true ↔ h.same i j = true ∨ h.isCancelled j = true := by
  rw [isCancelled_iff_getElem?, same_iff_getElem?, isCancelled_iff_getElem?, tokens_cancel]
  simp only [(h.applied (.cancel i)).isCancelled_iff]
  constructor
  · rintro ⟨t, ht, hraised | ⟨_, hi', hi⟩⟩
    · exact .inr ⟨t, ht, hraised⟩
    · cases hi'
      exact .inl ⟨t, hi, ht⟩
  · rintro (⟨t, hi, ht⟩ | ⟨t, ht, hraised⟩)
    · exact ⟨t, ht, .inr ⟨i, rfl, hi⟩⟩
    · exact ⟨t, ht, .inl hraised⟩

/-! ### Which tokens stand for one signal -/

/-- Created tokens differ, and every other one is the same as the one that it was taken from. -/
structure Traced (h : Handles) (origins : List Origin) : Prop where
  length : h.tokens.length = origins.length
  taken : ∀ i j : Nat, origins[i]? = some (.taken j) → j < i ∧ h.tokens[i]? = h.tokens[j]?
  created : ∀ i j : Nat, origins[i]? = some .created → origins[j]? = some .created →
    h.tokens[i]? = h.tokens[j]? → i = j
  /-- So the next signal is a new one. -/
  issued : ∀ t ∈ h.tokens, t.signal < h.signals.issued

theorem traced_none : none.Traced [] where
  length := rfl
  taken := nofun
  created := nofun
  issued := nofun

theorem getElem?_concat_cases {α : Type} {l : List α} {a x : α} {i : Nat}
    (h : (l ++ [a])[i]? = some x) : l[i]? = some x ∨ (i = l.length ∧ a = x) := by
  rcases Nat.lt_trichotomy i l.length with hlt | rfl | hgt
  · rw [List.getElem?_append_left hlt] at h
    exact .inl h
  · rw [List.getElem?_concat_length, Option.some_inj] at h
    exact .inr ⟨rfl, h⟩
  · rw [List.getElem?_eq_none (by rw [List.length_append]; exact hgt)] at h
    cases h

namespace Traced

variable {h : Handles} {origins : List Origin} (ho : h.Traced origins)

include ho

theorem lt_iff {i : Nat} : i < origins.length ↔ ∃ t, h.tokens[i]? = some t := by
  rw [← ho.length]
  exact ⟨fun hi => ⟨_, List.getElem?_eq_getElem hi⟩,
    fun ⟨_, ht⟩ => (List.getElem?_eq_some_iff.mp ht).1⟩

theorem getElem?_concat {i : Nat} {origin : Origin} (hi : origins[i]? = some origin) (t : Token) :
    (h.tokens ++ [t])[i]? = h.tokens[i]? := by
  apply List.getElem?_append_left
  rw [ho.length]
  exact (List.getElem?_eq_some_iff.mp hi).1

theorem taken_concat {i j : Nat} (hi : origins[i]? = some (.taken j)) (t : Token) :
    j < i ∧ (h.tokens ++ [t])[i]? = (h.tokens ++ [t])[j]? := by
  obtain ⟨hji, htokens⟩ := ho.taken i j hi
  have hlt : i < origins.length := (List.getElem?_eq_some_iff.mp hi).1
  have hj : origins[j]? = some origins[j] := List.getElem?_eq_getElem (Nat.lt_trans hji hlt)
  rw [ho.getElem?_concat hi, ho.getElem?_concat hj]
  exact ⟨hji, htokens⟩

theorem created_concat {i j : Nat} {t : Token} (hi : origins[i]? = some .created)
    (hj : origins[j]? = some .created) (hij : (h.tokens ++ [t])[i]? = (h.tokens ++ [t])[j]?) :
    i = j := by
  rw [ho.getElem?_concat hi, ho.getElem?_concat hj] at hij
  exact ho.created i j hi hj hij

/-- A token for a new signal is none of those at hand. -/
theorem addNew : h.addNew.Traced (origins ++ [.created]) where
  length := by simp [Handles.addNew, ho.length]
  taken := by
    intro i j hi
    rcases getElem?_concat_cases hi with hi | ⟨-, hcreated⟩
    · exact ho.taken_concat hi _
    · cases hcreated
  created := by
    have hnew {i : Nat} (hi : origins[i]? = some .created) :
        h.addNew.tokens[i]? ≠ h.addNew.tokens[origins.length]? := by
      rw [Handles.addNew, ho.getElem?_concat hi, ← ho.length, List.getElem?_concat_length]
      intro ht
      exact Nat.lt_irrefl _ (ho.issued _ (List.mem_of_getElem? ht))
    intro i j hi hj hij
    rcases getElem?_concat_cases hi with hi | ⟨rfl, -⟩
    · rcases getElem?_concat_cases hj with hj | ⟨rfl, -⟩
      · exact ho.created_concat hi hj hij
      · exact absurd hij (hnew hi)
    · rcases getElem?_concat_cases hj with hj | ⟨rfl, -⟩
      · exact absurd hij.symm (hnew hj)
      · rfl
  issued := by
    intro t ht
    rcases List.mem_append.mp ht with ht | ht
    · exact Nat.lt_succ_of_lt (ho.issued t ht)
    · rw [List.mem_singleton.mp ht]
      exact Nat.lt_succ_self _

/-- What is taken from a token at hand stands for the same signal. -/
theorem add {i : Nat} {t : Token} (ht : h.tokens[i]? = some t) :
    (h.add t).Traced (origins ++ [.taken i]) where
  length := by simp [Handles.add, ho.length]
  taken := by
    intro k j hk
    rcases getElem?_concat_cases hk with hk | ⟨rfl, hj⟩
    · exact ho.taken_concat hk t
    · cases hj
      have hlt : i < h.tokens.length := (List.getElem?_eq_some_iff.mp ht).1
      rw [Handles.add, ← ho.length, List.getElem?_concat_length, List.getElem?_append_left hlt, ht]
      exact ⟨hlt, rfl⟩
  created := by
    intro k j hk hj hkj
    rcases getElem?_concat_cases hk with hk | ⟨-, htaken⟩
    · rcases getElem?_concat_cases hj with hj | ⟨-, htaken⟩
      · exact ho.created_concat hk hj hkj
      · cases htaken
    · cases htaken
  issued := by
    intro u hu
    rcases List.mem_append.mp hu with hu | hu
    · exact ho.issued u hu
    · rw [List.mem_singleton.mp hu]
      exact ho.issued t (List.mem_of_getElem? ht)

theorem cancel (t : Token) : ({ h with signals := h.signals.cancel t } : Handles).Traced origins :=
  { ho with issued := fun u hu => by rw [Signals.issued_cancel]; exact ho.issued u hu }

theorem applied {k : Handles} {a : Action} (ha : h.Applied a k) : k.Traced (note origins a) := by
  cases ha with
  | created => exact ho.addNew
  | cloned i t ht | wrapped i t ht =>
    rw [note, if_pos (ho.lt_iff.mpr ⟨t, ht⟩)]
    exact ho.add ht
  | cancelled i t ht => exact ho.cancel t
  | missing a i ha hi =>
    have hlt : ¬ i < origins.length := by simp [ho.lt_iff, hi]
    have hnote : note origins a = origins := by
      cases a <;> cases ha <;> simp [note, hlt]
    rwa [hnote]

theorem after (actions : List Action) : (h.after actions).Traced (actions.foldl note origins) := by
  induction actions generalizing h origins with
  | nil => exact ho
  | cons a rest ih => exact ih (ho.applied (h.applied a))

theorem exists_descends {i : Nat} (hi : i < origins.length) : ∃ c, Descends origins i c := by
  induction i using Nat.strongRecOn with
  | ind i ih =>
    cases horigin : origins[i] with
    | created => exact ⟨i, .created (by rw [List.getElem?_eq_getElem hi, horigin])⟩
    | taken j =>
      have htaken : origins[i]? = some (.taken j) := by rw [List.getElem?_eq_getElem hi, horigin]
      have hji : j < i := (ho.taken i j htaken).1
      obtain ⟨c, hc⟩ := ih j hji (Nat.lt_trans hji hi)
      exact ⟨c, .taken htaken hc⟩

/-- A token is the same as the created one that it descends from. -/
theorem descends {i c : Nat} (hc : Descends origins i c) :
    origins[c]? = some .created ∧ ∃ t, h.tokens[i]? = some t ∧ h.tokens[c]? = some t := by
  induction hc with
  | created hc =>
    obtain ⟨t, ht⟩ := ho.lt_iff.mp (List.getElem?_eq_some_iff.mp hc).1
    exact ⟨hc, t, ht, ht⟩
  | taken hi _ ih =>
    obtain ⟨hcreated, t, hj, hc⟩ := ih
    exact ⟨hcreated, t, (ho.taken _ _ hi).2.trans hj, hc⟩

/-- **Two tokens stand for one signal exactly if they descend from one creation.** -/
theorem same_iff {i j : Nat} : h.same i j = true ↔ Kin origins i j := by
  rw [same_iff_getElem?]
  constructor
  · rintro ⟨t, hi, hj⟩
    obtain ⟨c, hc⟩ := ho.exists_descends (ho.lt_iff.mpr ⟨t, hi⟩)
    obtain ⟨d, hd⟩ := ho.exists_descends (ho.lt_iff.mpr ⟨t, hj⟩)
    obtain ⟨hcreated, u, hiu, hcu⟩ := ho.descends hc
    obtain ⟨hdcreated, v, hjv, hdv⟩ := ho.descends hd
    have htokens : h.tokens[c]? = h.tokens[d]? := by
      calc h.tokens[c]? = h.tokens[i]? := hcu.trans hiu.symm
        _ = h.tokens[j]? := hi.trans hj.symm
        _ = h.tokens[d]? := hjv.trans hdv.symm
    have hcd : c = d := ho.created c d hcreated hdcreated htokens
    exact ⟨c, hc, hcd ▸ hd⟩
  · rintro ⟨c, hi, hj⟩
    obtain ⟨-, t, hit, hct⟩ := ho.descends hi
    obtain ⟨-, u, hju, hcu⟩ := ho.descends hj
    rw [hct, Option.some_inj] at hcu
    exact ⟨t, hit, hcu ▸ hju⟩

end Traced

/-- Whatever was done, the notes are true of the tokens at hand. -/
theorem traced_after (actions : List Action) : (none.after actions).Traced (origins actions) :=
  traced_none.after actions

/-- A token is cancelled exactly if one that descends from the same creation was. -/
theorem isCancelled_iff_kin (actions : List Action) (i : Nat) :
    (none.after actions).isCancelled i = true ↔ ∃ before j later,
      actions = before ++ .cancel j :: later ∧ j < (origins before).length ∧
        Kin (origins actions) i j := by
  have hat {before later : List Action} {j : Nat} {t : Token}
      (hj : (none.after before).tokens[j]? = some t) :
      (none.after (before ++ .cancel j :: later)).tokens[j]? = some t := by
    rw [after, List.foldl_append]
    exact getElem?_tokens_after hj (.cancel j :: later)
  rw [isCancelled_iff_getElem?]
  constructor
  · rintro ⟨t, hi, hraised⟩
    rcases (isCancelled_after none actions t).mp hraised with hnone | ⟨before, j, later, rfl, hj⟩
    · cases hnone
    · refine ⟨before, j, later, rfl, (traced_after before).lt_iff.mpr ⟨t, hj⟩, ?_⟩
      rw [← (traced_after _).same_iff, same_iff_getElem?]
      exact ⟨t, hi, hat hj⟩
  · rintro ⟨before, j, later, rfl, hlt, hkin⟩
    obtain ⟨t, hj⟩ := (traced_after before).lt_iff.mp hlt
    obtain ⟨u, hi, hju⟩ := same_iff_getElem?.mp ((traced_after _).same_iff.mpr hkin)
    rw [hat hj, Option.some_inj] at hju
    exact ⟨u, hi, (isCancelled_after none _ u).mpr (.inr ⟨before, j, later, rfl, hju ▸ hj⟩)⟩

end Handles

/-- **Tokens of one creation.** Whatever was done, two tokens at hand stand for one signal exactly
if they descend from one that was created, over any copies and contexts. A token is cancelled
exactly if one that descends from the same creation was cancelled before, when it was at hand. So
cancelling a token cancels those that descend from the same creation, leaves every other one as it
was, and changes nothing the second time; and whatever is done later, what is cancelled stays so. -/
theorem handles_of_one_creation (actions : List Handles.Action) :
    let h := Handles.none.after actions
    let origins := Handles.origins actions
    h.tokens.length = origins.length ∧
      (∀ i j, h.same i j = true ↔ Handles.Kin origins i j) ∧
      (∀ i, h.isCancelled i = true ↔ ∃ before j later,
        actions = before ++ .cancel j :: later ∧ j < (Handles.origins before).length ∧
          Handles.Kin origins i j) ∧
      (∀ i,
        let next := h.apply (.cancel i)
        next.tokens = h.tokens ∧
          (∀ j, next.isCancelled j = true ↔ Handles.Kin origins i j ∨ h.isCancelled j = true) ∧
          next.apply (.cancel i) = next) ∧
      ∀ later i, h.isCancelled i = true → (h.after later).isCancelled i = true := by
  intro h origins
  have ht : h.Traced origins := Handles.traced_after actions
  refine ⟨ht.length, fun i j => ht.same_iff, Handles.isCancelled_iff_kin actions, fun i => ?_,
    fun later i hi => Handles.isCancelled_mono hi later⟩
  refine ⟨h.tokens_cancel i, fun j => ?_, h.cancel_cancel i⟩
  rw [h.isCancelled_cancel_iff, ht.same_iff]

/-- A token out of a context around a copy is cancelled: so is the one that the copy was made of,
and a later copy of that one, but not the token that was created next to it. -/
theorem handles_of_one_creation_of_context :
    let actions : List Handles.Action :=
      [.create, .create, .clone 0, .wrap 2, .cancel 3, .clone 0]
    let h := Handles.none.after actions
    h.cancelled = [true, false, true, true, true] ∧
      Handles.Kin (Handles.origins actions) 4 3 ∧ ¬ Handles.Kin (Handles.origins actions) 1 3 ∧
      (h.after [.create, .cancel 1, .wrap 5]).isCancelled 4 = true := by
  intro actions h
  have hcancelled : h.cancelled = [true, false, true, true, true] := by
    decide +kernel
  have hlast : h.isCancelled 4 = true := by
    decide +kernel
  obtain ⟨-, hsame, -, -, hlater⟩ := handles_of_one_creation actions
  refine ⟨hcancelled, (hsame 4 3).mp (by decide +kernel), fun hkin => ?_, hlater _ 4 hlast⟩
  have hsecond : h.same 1 3 = true := (hsame 1 3).mpr hkin
  revert hsecond
  decide +kernel

end LongPoll
