/-
# A client that shares its session

Other clients of the same session may have their requests served before and between those of the
client: they may acknowledge past it, start over, or fill the buffer, so that it is refused, or
finds positions missing. But whatever they do, an answer comes from after the position that was
asked from (`Ending.lt_position`). So the client never receives a position twice, and what it counts
describes what it received (`Client.Accounted`): each request was lost, failed or delivered, and
each gap is a place where the positions delivered do not go on by one.

Key definitions: `ClientReport.positions`, `ClientReport.skips`, `Client.Recorded`,
`Client.Accounted`, `Rig.serveOthers`, `Rig.share`, `Rig.Sharing`.
Key theorems: `Ending.lt_position`, `ClientReport.skips_concat`, `ClientReport.skips_eq_zero_iff`,
`Client.Recorded.accept`, `Client.Recorded.isGapFree_iff`, `Client.Accounted.of_received`,
`Rig.Sharing.step`, `Rig.Sharing.share`, `report_accounted`.
-/
import LongPoll.Proofs.Following

namespace LongPoll

open History

variable {β π σ ρ : Type}

theorem Ending.lt_position {s : Session β π} {h : History β π} {e : Exchange β π}
    (hend : Ending s h e) (t : s.Tracks h) {response : Response π}
    (hr : e.outcome.result = .ok response) : e.request.position < response.position := by
  have hposition := hend.delivered_position t hr
  have hacked := (hend.delivered hr).2
  rw [Position.lt_def]
  omega

theorem Position.eq_next_iff {p q : Position} (hlt : p < q) : q = p.next ↔ q.val = p.val + 1 := by
  have hbound := q.lt_limit
  rw [lt_def] at hlt
  cases hnext : p.next? with
  | none =>
    rw [next?_eq_none_iff] at hnext
    omega
  | some n =>
    rw [next, hnext, Option.getD_some, ← val_inj, next?_eq_some_iff.mp hnext]

/-! ### Positions that are skipped -/

namespace ClientReport

def positions (r : ClientReport) : List Nat := r.delivered.map (·.val)

/-- How many numbers are not one more than the number before them, with `before` in front of the
first. -/
def skips : Nat → List Nat → Nat
  | _, [] => 0
  | before, n :: rest => (if n = before + 1 then 0 else 1) + skips n rest

theorem skips_concat (before : Nat) (l : List Nat) (n : Nat) :
    skips before (l ++ [n]) =
      skips before l + if n = l.getLast?.getD before + 1 then 0 else 1 := by
  induction l generalizing before with
  | nil =>
    rw [List.nil_append, skips, skips, skips, Nat.add_comm]
    rfl
  | cons m l ih =>
    have hlast : (m :: l).getLast?.getD before = l.getLast?.getD m := by
      rw [List.getLast?_cons, Option.getD_some]
    rw [List.cons_append, skips, skips, ih, hlast, Nat.add_assoc]

/-- Nothing is skipped exactly if the numbers go on by one from the first. -/
theorem skips_eq_zero_iff (before : Nat) (l : List Nat) :
    skips before l = 0 ↔ l = List.range' (before + 1) l.length := by
  induction l generalizing before with
  | nil => simp [skips]
  | cons n l ih =>
    rw [skips, List.length_cons, List.range'_succ, List.cons.injEq, Nat.add_eq_zero_iff, ih]
    by_cases hn : n = before + 1
    · simp [hn]
    · simp [hn]

end ClientReport

open ClientReport

/-! ### What a client counts -/

namespace Client

/-- What the client has recorded of the positions that it received. -/
structure Recorded (c : Client) : Prop where
  duplicates : c.report.duplicates = 0
  increasing : c.report.positions.Pairwise (· < ·)
  last : c.report.delivered.getLast?.getD .initial = c.position
  gaps : c.report.gaps = skips 0 c.report.positions

namespace Recorded

variable {c : Client} (hc : c.Recorded)

include hc

theorem getLast?_positions : c.report.positions.getLast?.getD 0 = c.position.val := by
  rw [← hc.last, positions, List.getLast?_map]
  cases c.report.delivered.getLast? <;> rfl

theorem le_position {n : Nat} (hn : n ∈ c.report.positions) : n ≤ c.position.val := by
  have hlast := hc.getLast?_positions
  have hincreasing := hc.increasing
  rcases List.eq_nil_or_concat c.report.positions with hnil | ⟨l, m, hl⟩
  · rw [hnil] at hn
    cases hn
  · rw [List.concat_eq_append] at hl
    rw [hl, List.getLast?_concat, Option.getD_some] at hlast
    rw [hl, List.pairwise_append] at hincreasing
    rw [hl, List.mem_append, List.mem_singleton] at hn
    rcases hn with hn | rfl
    · have hlt : n < m := hincreasing.2.2 n hn m (List.mem_singleton_self m)
      omega
    · exact Nat.le_of_eq hlast

/-- A position after the client's own goes to the end of the record, and is a gap unless it is the
next one. -/
theorem accept {p : Position} (hlt : c.position < p) : (c.accept p).Recorded := by
  have hafter : ¬ p ≤ c.position := Nat.not_le.mpr hlt
  have hdelivered : (c.accept p).report.delivered = c.report.delivered ++ [p] := by
    rw [delivered_accept, if_neg hafter]
  have hpositions : (c.accept p).report.positions = c.report.positions ++ [p.val] := by
    rw [positions, hdelivered, List.map_append]
    rfl
  refine ⟨?_, ?_, ?_, ?_⟩
  · rw [Client.accept, if_neg hafter]
    exact hc.duplicates
  · rw [hpositions, List.pairwise_append]
    refine ⟨hc.increasing, List.pairwise_singleton _ _, fun n hn m hm => ?_⟩
    rw [List.mem_singleton.mp hm]
    exact Nat.lt_of_le_of_lt (hc.le_position hn) hlt
  · rw [hdelivered, List.getLast?_concat, Option.getD_some, Client.accept, if_neg hafter]
  · rw [hpositions, skips_concat, ← hc.gaps, hc.getLast?_positions, Client.accept, if_neg hafter]
    simp only [Position.eq_next_iff hlt]
    split <;> rfl

/-- The detector finds nothing missing exactly if the positions received are 1, 2, 3, …. -/
theorem isGapFree_iff :
    c.report.isGapFree = true ↔ ∃ n, c.report.positions = List.range' 1 n := by
  have hlength : c.report.received.length = c.report.positions.length := by
    simp [positions, delivered]
  have hdetector : c.report.isGapFree = true ↔
      c.report.positions = List.range' 1 c.report.positions.length := by
    have hgaps := skips_eq_zero_iff 0 c.report.positions
    rw [← hc.gaps] at hgaps
    simp [isGapFree, hc.duplicates, hgaps, hlength, positions]
  rw [hdetector]
  constructor
  · exact fun hfree => ⟨_, hfree⟩
  · rintro ⟨n, hn⟩
    rw [hn, List.length_range']

end Recorded

/-- What the client counts describes what it received: each request was lost, failed or brought a
new position. -/
structure Accounted (c : Client) : Prop extends c.Recorded where
  requests : c.report.requests =
    c.report.lost + c.report.errors + c.report.duplicates + c.report.delivered.length

theorem accounted_start (changeEvery : Nat) (timeout : Duration) :
    (start changeEvery timeout).Accounted :=
  ⟨⟨rfl, .nil, rfl, rfl⟩, rfl⟩

/-- **One request more.** If it is answered from after the client's position, what the client counts
still describes what it received. -/
theorem Accounted.of_received {c next : Client} (hc : c.Accounted)
    {result : Except SessionError (Response π)} (hreceived : c.send.2.Received result next)
    (hnew : ∀ response, result = .ok response → c.position < response.position) :
    next.Accounted := by
  have hsent : c.send.2.Recorded := ⟨hc.duplicates, hc.increasing, hc.last, hc.gaps⟩
  have hrecorded : next.Recorded := by
    cases hreceived with
    | failed error => exact ⟨hsent.duplicates, hsent.increasing, hsent.last, hsent.gaps⟩
    | lost response => exact ⟨hsent.duplicates, hsent.increasing, hsent.last, hsent.gaps⟩
    | accepted response => exact hsent.accept (hnew response rfl)
  refine ⟨hrecorded, ?_⟩
  have hrequests : next.report.requests = c.report.requests + 1 := hreceived.requests_eq
  have hsums : next.report.lost + next.report.errors + next.report.received.length =
      c.report.lost + c.report.errors + c.report.received.length + 1 :=
    (hreceived.sums fun response hresult => Nat.not_le.mpr (hnew response hresult)).2
  have hbefore := hc.requests
  rw [hc.duplicates, delivered, List.length_reverse] at hbefore
  rw [hrecorded.duplicates, delivered, List.length_reverse]
  omega

end Client

/-! ### Turns -/

namespace Rig

/-- Requests of other clients, one after another, served by the same session and handler. -/
def serveOthers (setup : Setup) (handler : Handler σ String π) (rig : Rig σ ρ π) :
    List (Request String) → Rig σ ρ π
  | [] => rig
  | r :: rest =>
    let (outcome, memory) := rig.session.serve setup handler rig.memory r
    { rig with session := outcome.session, memory }.serveOthers setup handler rest

/-- Turns one after another: in each, requests of other clients and then one of the client. -/
def share (setup : Setup) (handler : Handler σ String π) (draw : Link ρ) (rig : Rig σ ρ π) :
    List (List (Request String)) → Rig σ ρ π
  | [] => rig
  | others :: rest =>
    ((rig.serveOthers setup handler others).step setup handler draw).share setup handler draw rest

variable (setup : Setup) (handler : Handler σ String π) (draw : Link ρ)

theorem client_serveOthers (rig : Rig σ ρ π) (others : List (Request String)) :
    (rig.serveOthers setup handler others).client = rig.client := by
  induction others generalizing rig with
  | nil => rfl
  | cons r rest ih => exact ih _

theorem requests_share (rig : Rig σ ρ π) (turns : List (List (Request String))) :
    (rig.share setup handler draw turns).client.report.requests =
      rig.client.report.requests + turns.length := by
  induction turns generalizing rig with
  | nil => rfl
  | cons others rest ih =>
    rw [share, ih, requests_step, client_serveOthers, List.length_cons]
    omega

variable {rig : Rig σ ρ π} {h : History String π}

theorem tracks_serveOthers (t : rig.session.Tracks h) (others : List (Request String)) :
    ∃ k, (rig.serveOthers setup handler others).session.Tracks (h ++ k) := by
  induction others generalizing rig h with
  | nil => exact ⟨[], by rwa [List.append_nil]⟩
  | cons r rest ih =>
    obtain ⟨reply, hserve⟩ := rig.session.serve_eq_step setup handler rig.memory r
    have hnext := t.concat (t.ending setup r reply)
    rw [Session.exchange_outcome, ← hserve] at hnext
    rcases hserved : rig.session.serve setup handler rig.memory r with ⟨outcome, memory⟩
    rw [hserved] at hnext
    let next : Rig σ ρ π := { rig with session := outcome.session, memory }
    have htracks : next.session.Tracks (h ++ [rig.session.exchange setup r reply]) := hnext
    obtain ⟨k, hrest⟩ := ih htracks
    refine ⟨[rig.session.exchange setup r reply] ++ k, ?_⟩
    rw [← List.append_assoc, serveOthers, hserved]
    exact hrest

/-- The session tracks its history, and what the client counts describes what it received. -/
structure Sharing (rig : Rig σ ρ π) (h : History String π) : Prop where
  tracks : rig.session.Tracks h
  accounted : rig.client.Accounted

namespace Sharing

variable (hr : rig.Sharing h)

include hr

theorem serveOthers (others : List (Request String)) :
    ∃ k, (rig.serveOthers setup handler others).Sharing (h ++ k) := by
  obtain ⟨k, htracks⟩ := tracks_serveOthers setup handler hr.tracks others
  refine ⟨k, htracks, ?_⟩
  rw [client_serveOthers]
  exact hr.accounted

theorem step : ∃ e, (rig.step setup handler draw).Sharing (h ++ [e]) := by
  obtain ⟨reply, hsession, hreceived⟩ := rig.step_exchange setup handler draw
  have hend := hr.tracks.ending setup rig.client.send.1 reply
  refine ⟨_, hsession ▸ hr.tracks.concat hend, hr.accounted.of_received hreceived ?_⟩
  exact fun response hresult => hend.lt_position hr.tracks hresult

theorem share (turns : List (List (Request String))) :
    ∃ k, (rig.share setup handler draw turns).Sharing (h ++ k) := by
  induction turns generalizing rig h with
  | nil => exact ⟨[], by rwa [List.append_nil]⟩
  | cons others rest ih =>
    obtain ⟨k, hothers⟩ := hr.serveOthers setup handler others
    obtain ⟨e, hstep⟩ := hothers.step setup handler draw
    obtain ⟨l, hrest⟩ := ih hstep
    exact ⟨k ++ ([e] ++ l), by rwa [List.append_assoc, List.append_assoc] at hrest⟩

end Sharing
end Rig

/-- **What a client reports of a session that it shares.** A new client comes to a session after any
run of calls, and other clients may have any requests served before each of its own. Whatever the
limits of the session, however the handler ends and whichever responses the link loses, after each
turn: every request of the client was lost, failed or delivered a position; none was delivered
twice; the positions delivered increase strictly, and the last one is the client's own; as many gaps
are counted as there are positions that are not one more than the one before; and the report finds
nothing missing exactly if the positions are 1, 2, 3, …. -/
theorem report_accounted (setup : Setup) (calls : List (Request String × Reply π))
    (handler : Handler σ String π) (draw : Link ρ) (changeEvery : Nat) (timeout : Duration)
    (memory : σ) (link : ρ) (turns : List (List (Request String))) :
    let rig : Rig σ ρ π :=
      { client := .start changeEvery timeout, session := Session.start.after setup calls, memory
        link, tally := .zero }
    let client := (rig.share setup handler draw turns).client
    let report := client.report
    report.requests = turns.length ∧
      report.requests =
        report.lost + report.errors + report.duplicates + report.delivered.length ∧
      report.duplicates = 0 ∧ report.positions.Pairwise (· < ·) ∧
      report.delivered.getLast?.getD .initial = client.position ∧
      report.gaps = skips 0 report.positions ∧
      (report.isGapFree = true ↔ ∃ n, report.positions = List.range' 1 n) := by
  intro rig client report
  have hstart : rig.Sharing (Session.start.history setup calls) :=
    ⟨Session.tracks_after setup calls, Client.accounted_start changeEvery timeout⟩
  obtain ⟨k, -, hc⟩ := hstart.share setup handler draw turns
  have hsent : report.requests = 0 + turns.length := rig.requests_share setup handler draw turns
  exact ⟨hsent.trans (Nat.zero_add _), hc.requests, hc.duplicates, hc.increasing, hc.last, hc.gaps,
    hc.isGapFree_iff⟩

/-- Another client acknowledges the first response, and this one begins at the second. -/
example :
    let handler : Handler Nat String Nat := fun n _ => (.respond (.fresh n), n + 1)
    let rig : Rig Nat Unit Nat := Rig.start (.start 0 (.ofMillis 1)) 0 ()
    let others : List (Request String) := [.fresh .initial "a", .fresh (.ofNat 1) "a"]
    let report := (rig.share default handler (fun _ => (false, ())) [others, []]).client.report
    report.positions = [2, 3] ∧ report.gaps = 1 ∧ report.isGapFree = false := by
  decide +kernel

end LongPoll
