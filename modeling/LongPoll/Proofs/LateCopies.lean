/-
# Late copies

A client sends its new requests from the highest position that it has received. Its link may lose
responses, and may at any time deliver a copy of an earlier request once more. A copy never is ahead
of the client, and a session answers it only from the client's own position, from the position of
the last answered request, or from position 0. The first two do no harm. But a copy of the client's
first request, from position 0, is taken for a new start: it replaces the last answered request, and
if the client's own position was known by that request alone, it is known no more
(`History.CutOff`). In every other case the client's position stays known.

Key definitions: `Arrival`, `Delivery`, `Conversation`, `Conversation.step`, `Conversation.run`,
`History.CutOff`, `Conversation.Timely`.
Key theorems: `History.CutOff.not_known`, `History.Near.answered`, `Conversation.Placed.step`,
`Conversation.Placed.run`, `Conversation.Placed.run_timely`, `Conversation.Placed.unknown_iff`,
`unknown_iff_cutOff`, `cutOff_of_late_start`.
-/
import LongPoll.Proofs.Following

namespace LongPoll

open History

variable {β π : Type}

/-- What arrives at a session that has one client. -/
inductive Arrival (β : Type)
  | request (body : β) (txnId : String) (timeout : Duration)
  /-- A copy of what arrived at place `i`. -/
  | copy (i : Nat)
deriving DecidableEq

/-- What arrives, what the handler replies if it is asked, and whether the response is lost. -/
structure Delivery (β π : Type) where
  arrival : Arrival β
  reply : Reply π
  lost : Bool

/-- A client and its session on such a link. -/
structure Conversation (β π : Type) where
  /-- The highest position that the client has received. -/
  position : Position
  session : Session β π
  /-- What has arrived, and how it ended. -/
  history : History β π

namespace Conversation

def start : Conversation β π := { position := .initial, session := .start, history := [] }

def ask (c : Conversation β π) (body : β) (txnId : String) (timeout : Duration) : Request β :=
  { position := c.position, body, txnId, timeout }

/-- The request that arrives; a copy of what never was is nothing. -/
def arriving? (c : Conversation β π) : Arrival β → Option (Request β)
  | .request body txnId timeout => some (c.ask body txnId timeout)
  | .copy i => c.history[i]?.map (·.request)

/-- The client takes the result of a request, unless it is lost. -/
def receive (c : Conversation β π) (lost : Bool) (result : Except SessionError (Response π)) :
    Position :=
  match result with
  | .ok response => if lost then c.position else max c.position response.position
  | .error _ => c.position

variable [DecidableEq β]

/-- One delivery. -/
def step (setup : Setup) (c : Conversation β π) (d : Delivery β π) : Conversation β π :=
  match c.arriving? d.arrival with
  | none => c
  | some r =>
    let e := c.session.exchange setup r d.reply
    { position := c.receive d.lost e.outcome.result
      session := e.outcome.session
      history := c.history ++ [e] }

def run (setup : Setup) (c : Conversation β π) (ds : List (Delivery β π)) : Conversation β π :=
  ds.foldl (step setup) c

/-- No request from position 0 arrives once the client has received something. -/
def Timely (setup : Setup) (c : Conversation β π) : List (Delivery β π) → Prop
  | [] => True
  | d :: rest =>
    (∀ r ∈ c.arriving? d.arrival, r.position = .initial → c.position = .initial) ∧
      Timely setup (c.step setup d) rest

instance instDecidableTimely (setup : Setup) :
    (c : Conversation β π) → (ds : List (Delivery β π)) → Decidable (c.Timely setup ds)
  | _, [] => isTrue trivial
  | c, d :: rest =>
    have : Decidable ((c.step setup d).Timely setup rest) := instDecidableTimely setup _ rest
    inferInstanceAs (Decidable (_ ∧ _))

end Conversation

/-! ### Where a client stands -/

namespace History

/-- The position `p` is known by nothing: it is the acknowledged one, and the last answered request
was from position 0. -/
def CutOff (h : History β π) (p : Position) : Prop :=
  p.val ≠ 0 ∧ p.val = acked h ∧ ∃ q ∈ last? h, q.position.val = 0

instance (h : History β π) (p : Position) : Decidable (CutOff h p) :=
  inferInstanceAs (Decidable (_ ∧ _ ∧ _))

/-- A client at `p` follows, or is cut off. -/
def Near (h : History β π) (p : Position) : Prop := Follows h p ∨ CutOff h p

variable {h : History β π} {p : Position} {s : Session β π} {e : Exchange β π}

theorem CutOff.not_known (hc : CutOff h p) (t : s.Tracks h) : ¬ Known h p := by
  obtain ⟨h0, hp, q, hq, hq0⟩ := hc
  rintro (hzero | ⟨hpos, hnext | hnewest⟩ | ⟨r, hr, hrp⟩)
  · exact h0 hzero
  · omega
  · have := t.acked_lt hpos
    omega
  · rw [Option.mem_def.mp hq, Option.some_inj] at hr
    rw [← hrp, ← hr] at h0
    exact h0 hq0

theorem Near.known_iff (hn : Near h p) (t : s.Tracks h) : Known h p ↔ ¬ CutOff h p := by
  refine ⟨fun hk hc => hc.not_known t hk, fun hfree => ?_⟩
  exact (hn.resolve_right hfree).known

/-- A client is at the acknowledged position, or right after it. -/
theorem Near.bounds (hn : Near h p) :
    p.val = acked h ∨ p.val = acked h + 1 ∧ 0 < newest h := by
  rcases hn with (⟨hp, -⟩ | hp) | ⟨-, hp, -⟩
  · exact .inl hp
  · exact .inr hp
  · exact .inl hp

theorem Near.failed (hn : Near h p) (he : e.isAnswered = false) (hp : e.produced = []) :
    Near (h ++ [e]) p := by
  refine hn.imp (fun hf => hf.failed he hp) fun hc => ?_
  have hacked : acked (h ++ [e]) = acked h := by simp [acked_concat, he]
  have hlast : last? (h ++ [e]) = last? h := by simp [last?_concat, he]
  rwa [CutOff, hacked, hlast]

/-- What is answered behind the acknowledged position is from position 0. -/
theorem Near.initial_of_known (hn : Near h p) (t : s.Tracks h) (hp : p.val = acked h)
    {q : Position} (hk : Known h q) (hq : q.val < p.val) : q.val = 0 := by
  rcases hk with h0 | ⟨hpos, hnext | hnewest⟩ | ⟨r, hr, hrq⟩
  · exact h0
  · omega
  · have := t.acked_lt hpos
    omega
  · -- the last answered request was from the client's position, or from position 0
    rcases hn with (⟨-, hp0 | ⟨r', hr', hrp⟩⟩ | ⟨hnext, -⟩) | ⟨-, -, r', hr', hr0⟩
    · omega
    · rw [hr, Option.some_inj] at hr'
      rw [← hrp, ← hr', hrq] at hq
      omega
    · omega
    · rw [Option.mem_def, hr, Option.some_inj] at hr'
      rw [← hrq, hr', hr0]

/-- **What an answered request does to a client at `p`** that is not behind it. If the response
comes through the client follows. If it is lost the client is near all the same; and it follows
unless the request was a start from position 0 and the client was past that. -/
theorem Near.answered (hn : Near h p) (t : s.Tracks h) (hend : Ending s h e)
    (hle : e.request.position.val ≤ p.val) {response : Response π}
    (hr : e.outcome.result = .ok response) :
    Follows (h ++ [e]) (max p response.position) ∧ Near (h ++ [e]) p ∧
      ((e.request.position = .initial → p = .initial) → Follows (h ++ [e]) p) := by
  have he := Exchange.isAnswered_of_ok hr
  have hacked : acked (h ++ [e]) = max (acked h) e.request.position.val := by
    rw [acked_concat, if_pos he]
  have hnext := hend.delivered_position t hr
  have hmoved := Follows.of_response hend t hr
  have hbounds := hn.bounds
  have hmax : max p response.position = response.position := by
    apply Position.max_of_le
    rw [Position.le_def]
    omega
  rw [hmax]
  rcases Nat.lt_or_ge e.request.position.val p.val with hlt | hge
  · rcases hbounds with hp | ⟨hp, -⟩
    · -- only a start from position 0 is answered from behind what is acknowledged
      have h0 := hn.initial_of_known t hp (hend.known_of_ok hr) hlt
      have hlast : last? (h ++ [e]) = some e.request := by rw [last?_concat, if_pos he]
      refine ⟨hmoved, .inr ⟨by omega, by omega, e.request, hlast, h0⟩, fun hstart => ?_⟩
      rw [hstart (Position.val_inj.mp h0)] at hlt
      exact absurd hlt (Nat.not_lt_zero _)
    · -- the client has received what the request is answered with
      have hsame : response.position = p := Position.val_inj.mp (by omega)
      exact ⟨hmoved, .inl (hsame ▸ hmoved), fun _ => hsame ▸ hmoved⟩
  · have hsame : e.request.position = p := Position.val_inj.mp (by omega)
    have hstays : Follows (h ++ [e]) p := hsame ▸ Follows.of_request hr (by omega)
    exact ⟨hmoved, .inl hstays, fun _ => hstays⟩

end History

/-! ### Deliveries -/

namespace Conversation

/-- The session tracks what has arrived, nothing that has arrived is ahead of the client, and the
client is near. -/
structure Placed (c : Conversation β π) : Prop where
  tracks : c.session.Tracks c.history
  behind : ∀ e ∈ c.history, e.request.position.val ≤ c.position.val
  near : Near c.history c.position

theorem placed_start : (start : Conversation β π).Placed where
  tracks := Session.tracks_start
  behind := fun _ he => absurd he List.not_mem_nil
  near := .inl (.inl ⟨rfl, .inl rfl⟩)

theorem le_receive (c : Conversation β π) (lost : Bool)
    (result : Except SessionError (Response π)) :
    c.position.val ≤ (c.receive lost result).val := by
  cases result with
  | error error => exact Nat.le_refl _
  | ok response =>
    rw [receive]
    split
    · exact Nat.le_refl _
    · exact Position.le_max_left _ _

variable {c : Conversation β π}

theorem Placed.arriving_le (hc : c.Placed) {a : Arrival β} {r : Request β}
    (hr : c.arriving? a = some r) : r.position.val ≤ c.position.val := by
  cases a with
  | request body txnId timeout =>
    obtain rfl := Option.some_inj.mp hr
    exact Nat.le_refl _
  | copy i =>
    obtain ⟨e, he, rfl⟩ := Option.map_eq_some_iff.mp hr
    exact hc.behind e (List.mem_of_getElem? he)

variable [DecidableEq β] (setup : Setup)

/-- **One delivery.** The client stays near; and a client that follows does so after it, unless it
was a start from position 0 and the client was past that. -/
theorem Placed.step (hc : c.Placed) (d : Delivery β π) :
    (c.step setup d).Placed ∧
      (Follows c.history c.position →
        (∀ r ∈ c.arriving? d.arrival, r.position = .initial → c.position = .initial) →
        Follows (c.step setup d).history (c.step setup d).position) := by
  unfold Conversation.step
  split
  · exact ⟨hc, fun hf _ => hf⟩
  · next r hr =>
    have hle := hc.arriving_le hr
    have hend := hc.tracks.ending setup r d.reply
    have hrequest : (c.session.exchange setup r d.reply).request = r := rfl
    generalize c.session.exchange setup r d.reply = e at hend hrequest ⊢
    have hbehind : ∀ e' ∈ c.history ++ [e],
        e'.request.position.val ≤ (c.receive d.lost e.outcome.result).val := by
      have hforward := c.le_receive d.lost e.outcome.result
      intro e' he'
      rcases List.mem_append.mp he' with hold | hnew
      · exact Nat.le_trans (hc.behind e' hold) hforward
      · rw [List.mem_singleton.mp hnew, hrequest]
        exact Nat.le_trans hle hforward
    suffices hclient : Near (c.history ++ [e]) (c.receive d.lost e.outcome.result) ∧
        (Follows c.history c.position → (r.position = .initial → c.position = .initial) →
          Follows (c.history ++ [e]) (c.receive d.lost e.outcome.result)) from
      ⟨⟨hc.tracks.concat hend, hbehind, hclient.1⟩, fun hf htimely => hclient.2 hf (htimely r hr)⟩
    cases hresult : e.outcome.result with
    | error error =>
      have he := Exchange.isAnswered_of_error hresult
      have hproduced := (hend.of_error hresult).2
      exact ⟨hc.near.failed he hproduced, fun hf _ => hf.failed he hproduced⟩
    | ok response =>
      obtain ⟨hmoved, hstays, hfollows⟩ :=
        hc.near.answered hc.tracks hend (hrequest ▸ hle) hresult
      rw [hrequest] at hfollows
      rw [receive]
      cases d.lost with
      | true => exact ⟨hstays, fun _ htimely => hfollows htimely⟩
      | false => exact ⟨.inl hmoved, fun _ _ => hmoved⟩

/-- However many deliveries, the client stays near. -/
theorem Placed.run (hc : c.Placed) (ds : List (Delivery β π)) : (c.run setup ds).Placed := by
  induction ds generalizing c with
  | nil => exact hc
  | cons d rest ih => exact ih (hc.step setup d).1

/-- However many deliveries, the client follows if all are timely. -/
theorem Placed.run_timely (hc : c.Placed) (hf : Follows c.history c.position)
    {ds : List (Delivery β π)} (htimely : c.Timely setup ds) :
    Follows (c.run setup ds).history (c.run setup ds).position := by
  induction ds generalizing c with
  | nil => exact hf
  | cons d rest ih =>
    obtain ⟨hplaced, hfollows⟩ := hc.step setup d
    exact ih hplaced (hfollows hf htimely.1) htimely.2

/-- A new request of the client is refused for its position exactly if the client is cut off. -/
theorem Placed.unknown_iff (hc : c.Placed) (body : β) (txnId : String) (timeout : Duration)
    (reply : Reply π) (p : Position) :
    (c.session.step setup (c.ask body txnId timeout) reply).result = .error (.unknownPosition p) ↔
      CutOff c.history c.position ∧ p = c.position := by
  have hcut : ¬ Known c.history c.position ↔ CutOff c.history c.position := by
    rw [hc.near.known_iff hc.tracks, Classical.not_not]
  rw [← Session.exchange_outcome, (hc.tracks.ruling setup _ reply).unknownPosition_iff]
  exact and_congr_left fun _ => hcut

end Conversation

/-- **When a late copy cuts the client off.** After any deliveries to a new session of one client,
of new requests and of copies of earlier ones, with responses lost at will, a new request of the
client is refused for its position exactly if the client is cut off: its own position is not 0 and
is the acknowledged one, and the last answered request was from position 0. It never comes to that
while no request from position 0 arrives once the client has received something. -/
theorem unknown_iff_cutOff [DecidableEq β] (setup : Setup) (ds : List (Delivery β π)) :
    let c := (Conversation.start : Conversation β π).run setup ds
    (∀ body txnId timeout reply p,
        (c.session.step setup (c.ask body txnId timeout) reply).result
            = .error (.unknownPosition p) ↔
          CutOff c.history c.position ∧ p = c.position) ∧
      (Conversation.start.Timely setup ds → ¬ CutOff c.history c.position) := by
  intro c
  have hc : c.Placed := Conversation.placed_start.run setup ds
  refine ⟨hc.unknown_iff setup, fun htimely hcut => ?_⟩
  have hf : Follows c.history c.position :=
    Conversation.placed_start.run_timely setup (.inl ⟨rfl, .inl rfl⟩) htimely
  exact hcut.not_known hc.tracks hf.known

/-- The client receives position 1 and loses the response to its second request. A copy of that
request is timely, and its response is lost too: the client is not cut off, and asks on. -/
theorem unknown_iff_cutOff_of_late_request :
    let asks (lost : Bool) : Delivery String Nat :=
      { arrival := .request "a" "t" (.ofMillis 1), reply := .respond (.fresh 7), lost }
    let late : Delivery String Nat := { asks true with arrival := .copy 1 }
    let ds := [asks false, asks true, late]
    let c := Conversation.start.run default ds
    Conversation.start.Timely default ds ∧ c.position.val = 1 ∧
      ¬ CutOff c.history c.position ∧
      (c.session.step default (c.ask "a" "t" (.ofMillis 1)) (.respond (.fresh 7))).result
        ≠ .error (.unknownPosition c.position) := by
  intro asks late ds c
  have htimely : Conversation.start.Timely default ds := by
    decide +kernel
  have hposition : c.position.val = 1 := by
    decide +kernel
  obtain ⟨hrefused, hfree⟩ := unknown_iff_cutOff default ds
  exact ⟨htimely, hposition, hfree htimely, fun hunknown =>
    hfree htimely ((hrefused "a" "t" (.ofMillis 1) (.respond (.fresh 7)) c.position).mp hunknown).1⟩

/-- The client receives position 1 and loses the response to its second request. A copy of its
first request comes late: the client is refused for the position that it was given. -/
theorem cutOff_of_late_start :
    let asks (lost : Bool) : Delivery String Nat :=
      { arrival := .request "a" "t" (.ofMillis 1), reply := .respond (.fresh 7), lost }
    let late : Delivery String Nat := { asks true with arrival := .copy 0 }
    let c := Conversation.start.run default [asks false, asks true, late]
    c.position.val = 1 ∧
      ∀ body txnId timeout reply,
        (c.session.step default (c.ask body txnId timeout) reply).result
          = .error (.unknownPosition c.position) := by
  intro asks late c
  have hposition : c.position.val = 1 := by
    decide +kernel
  have hcut : CutOff c.history c.position := by
    decide +kernel
  have hc : c.Placed := Conversation.placed_start.run default _
  exact ⟨hposition, fun body txnId timeout reply =>
    (hc.unknown_iff default body txnId timeout reply _).mpr ⟨hcut, rfl⟩⟩

end LongPoll
