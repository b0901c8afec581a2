/-
# What is read as a request

The members of an object are read one after another, and each is put into its field unless that is
taken already. What comes of it depends on the members of each name alone (`named`): the loop over
all members is, for each field, a loop over the members of its name (`Wire.members_eq_ok_iff`), and
that one succeeds with no member or with one that can be read (`Wire.foldlM_once_iff`). So neither
the order of the members nor members of other names make a difference, and an array of the fields
reads as the object does. Nothing else is read as a request (`Wire.request_shape`).

Key definitions: `Draft.named`, `Draft.WholeStrings`, `Wire.RequestMembers`, `Wire.Describes`,
`Wire.NamedItems`, `Wire.Other`.
Key theorems: `Wire.foldlM_once_iff`, `Wire.members_eq_ok_iff`, `Wire.asRequest_object_iff`,
`Wire.asRequest_array`, `Wire.request_shape`, `request_decoded_iff`.
-/
import LongPoll.Proofs.Accepting
import LongPoll.Proofs.Fields
import LongPoll.Proofs.Writing

namespace LongPoll

namespace Draft

/-! ### Members of one name -/

/-- The key is `name`, however it is written. -/
def Quoted.is (q : Quoted) (name : String) : Bool :=
  match q.read with
  | .ok s => s == name
  | .error _ => false

/-- The values of the members of this name, in their order. -/
def named (ms : List (Quoted × Draft)) (name : String) : List Draft :=
  (ms.filter fun m => m.1.is name).map (·.2)

/-- All keys, and the values that are strings, are made of whole characters. Of what is deeper
inside of the values nothing is asked. -/
def WholeStrings (ms : List (Quoted × Draft)) : Prop :=
  ∀ m ∈ ms, Paired m.1.pieces ∧ ∀ q, m.2 = string q → Paired q.pieces

theorem is_of_read {q : Quoted} {key : String} (hq : q.read = .ok key) (name : String) :
    q.is name = (key == name) := by
  rw [Quoted.is, hq]

theorem named_cons (m : Quoted × Draft) (ms : List (Quoted × Draft)) (name : String) :
    named (m :: ms) name = if m.1.is name then m.2 :: named ms name else named ms name := by
  unfold named
  rw [List.filter_cons]
  split <;> rfl

/-- Members of other names and another order leave the values that come for a name as they are, up
to their order. -/
theorem named_perm {ms ms' extra : List (Quoted × Draft)} {name : String}
    (h : ms'.Perm (ms ++ extra)) (hextra : ∀ m ∈ extra, m.1.is name = false) :
    (named ms' name).Perm (named ms name) := by
  have hnone : (extra.filter fun m => m.1.is name) = [] := by
    rw [List.filter_eq_nil_iff]
    exact fun m hm => by rw [hextra m hm]; exact Bool.false_ne_true
  have hfilter := (h.filter fun m => m.1.is name).map (·.2)
  rwa [List.filter_append, hnone, List.append_nil] at hfilter

end Draft

namespace Wire

open Draft

/-! ### Reading all members -/

section Once

variable {α : Type} {name : String} {read : Draft → Except DecodeError α} {ds : List Draft} {a : α}

/-- A field is read from the values that come for it: it stays empty if there are none, and is the
value if there is one. -/
theorem foldlM_once_iff {value : Option α} :
    ds.foldlM (fun old d => once name old read d) none = .ok value ↔
      ds = [] ∧ value = none ∨ ∃ d a, ds = [d] ∧ read d = .ok a ∧ value = some a := by
  cases ds with
  | nil => simp [pure, Except.pure, eq_comm]
  | cons d rest =>
    simp only [List.foldlM_cons, once, bind, Except.bind]
    cases hd : read d with
    | error e => simp [hd, Except.map]
    | ok a =>
      cases rest with
      | nil => simp [Except.map, hd, pure, Except.pure, eq_comm]
      | cons e rest => simp [Except.map, bind, Except.bind]

theorem foldlM_once_some_iff :
    ds.foldlM (fun old d => once name old read d) none = .ok (some a) ↔
      ∃ d, ds = [d] ∧ read d = .ok a := by
  simp [foldlM_once_iff]

theorem foldlM_once_getD_iff {fallback : α} :
    (∃ value, ds.foldlM (fun old d => once name old read d) none = .ok value ∧
        a = value.getD fallback) ↔
      ds = [] ∧ a = fallback ∨ ∃ d, ds = [d] ∧ read d = .ok a := by
  simp only [foldlM_once_iff]
  constructor
  · rintro ⟨value, ⟨hds, rfl⟩ | ⟨d, a, hds, hread, rfl⟩, rfl⟩
    · exact Or.inl ⟨hds, rfl⟩
    · exact Or.inr ⟨d, hds, hread⟩
  · rintro (⟨hds, rfl⟩ | ⟨d, hds, hread⟩)
    · exact ⟨none, Or.inl ⟨hds, rfl⟩, rfl⟩
    · exact ⟨some a, Or.inr ⟨d, a, hds, hread, rfl⟩, rfl⟩

end Once

/-- **The loop over all members** is a loop over the members of each name. -/
theorem members_eq_ok_iff {β : Type} {body : Draft → Except DecodeError β}
    {ms : List (Quoted × Draft)} (hkeys : ∀ m ∈ ms, ∃ key, m.1.read = .ok key)
    (hvalues : ∀ m ∈ ms, m.2.skip = .ok ()) {f g : RequestFields β} :
    members (RequestFields.add body) none f ms = .ok g ↔
      (named ms "pos").foldlM (fun old d => once "pos" old asPosition d) f.pos = .ok g.pos ∧
      (named ms "body").foldlM (fun old d => once "body" old body d) f.body = .ok g.body ∧
      (named ms "txn_id").foldlM (fun old d => once "txn_id" old asString d) f.txnId
        = .ok g.txnId ∧
      (named ms "timeout_ms").foldlM (fun old d => once "timeout_ms" old asMillis d) f.timeout
        = .ok g.timeout := by
  induction ms generalizing f with
  | nil =>
    cases f
    cases g
    simp [members, named, pure, Except.pure]
  | cons m ms ih =>
    obtain ⟨q, d⟩ := m
    obtain ⟨key, hkey⟩ := hkeys _ List.mem_cons_self
    have ih := @ih (fun m hm => hkeys m (List.mem_cons_of_mem _ hm))
      fun m hm => hvalues m (List.mem_cons_of_mem _ hm)
    simp only [named_cons, is_of_read hkey, members, hkey, ofBreak, bind, Except.bind]
    by_cases hpos : key = "pos"
    · subst hpos
      cases h : once "pos" f.pos asPosition d <;>
        simp [RequestFields.add, h, bind, Except.bind, pure, Except.pure, ih]
    by_cases hbody : key = "body"
    · subst hbody
      cases h : once "body" f.body body d <;>
        simp [RequestFields.add, h, bind, Except.bind, pure, Except.pure, ih]
    by_cases htxn : key = "txn_id"
    · subst htxn
      cases h : once "txn_id" f.txnId asString d <;>
        simp [RequestFields.add, h, bind, Except.bind, pure, Except.pure, ih]
    by_cases htimeout : key = "timeout_ms"
    · subst htimeout
      cases h : once "timeout_ms" f.timeout asMillis d <;>
        simp [RequestFields.add, h, bind, Except.bind, pure, Except.pure, ih]
    · have hskip : d.skip = .ok () := hvalues _ List.mem_cons_self
      simp [RequestFields.add, hpos, hbody, htxn, htimeout, hskip, ofBreak, bind, Except.bind,
        pure, Except.pure, ih]

/-! ### Requests -/

/-- The names of the fields, in the order of an array of them. -/
def fieldNames : List String := ["pos", "body", "txn_id", "timeout_ms"]

/-- Members that make a request. -/
structure RequestMembers (ms : List (Quoted × Draft)) : Prop where
  position : ∃ d p, named ms "pos" = [d] ∧ NamesPosition d p
  body : ∃ q, named ms "body" = [string q]
  txnId : named ms "txn_id" = [] ∨ ∃ q, named ms "txn_id" = [string q]
  timeout : named ms "timeout_ms" = [] ∨
    ∃ d n, named ms "timeout_ms" = [d] ∧ PlainNumber d n ∧ n < wordLimit

/-- The members say what is in the request, but for what they leave out. -/
structure Describes (ms : List (Quoted × Draft)) (r : Request String) : Prop where
  position : ∃ d, named ms "pos" = [d] ∧ NamesPosition d r.position
  body : ∃ d, named ms "body" = [d] ∧ IsString d r.body
  txnId : named ms "txn_id" = [] ∧ r.txnId = "" ∨
    ∃ d, named ms "txn_id" = [d] ∧ IsString d r.txnId
  timeout : named ms "timeout_ms" = [] ∧ r.timeout = .ofSeconds 30 ∨
    ∃ d, named ms "timeout_ms" = [d] ∧
      ∃ n, PlainNumber d n ∧ n < wordLimit ∧ r.timeout = .ofMillis n

theorem finish_eq_ok_iff {β : Type} {f : RequestFields β} {r : Request β} :
    f.finish = .ok r ↔ f.pos = some r.position ∧ f.body = some r.body ∧
      r.txnId = f.txnId.getD "" ∧ r.timeout = f.timeout.getD Request.defaultTimeout := by
  obtain ⟨pos, body, txnId, timeout⟩ := f
  obtain ⟨position, b, t, u⟩ := r
  cases pos <;> cases body <;>
    simp [RequestFields.finish, need, bind, Except.bind, pure, Except.pure, eq_comm]

theorem asRequest_object_iff {ms : List (Quoted × Draft)}
    (hkeys : ∀ m ∈ ms, ∃ key, m.1.read = .ok key) (hvalues : ∀ m ∈ ms, m.2.skip = .ok ())
    {r : Request String} : asRequest asString (object ms none) = .ok r ↔ Describes ms r := by
  have hfields : asRequest asString (object ms none) = .ok r ↔
      ∃ f, members (RequestFields.add asString) none ⟨none, none, none, none⟩ ms = .ok f ∧
        f.finish = .ok r := by
    rw [asRequest]
    cases members (RequestFields.add asString) none ⟨none, none, none, none⟩ ms <;>
      simp [bind, Except.bind]
  simp only [hfields, members_eq_ok_iff hkeys hvalues, finish_eq_ok_iff]
  constructor
  · rintro ⟨f, ⟨hpos, hbody, htxn, htimeout⟩, hp, hb, ht, hu⟩
    rw [hp, foldlM_once_some_iff] at hpos
    rw [hb, foldlM_once_some_iff] at hbody
    have htxn := foldlM_once_getD_iff.mp ⟨_, htxn, ht⟩
    have htimeout := foldlM_once_getD_iff.mp ⟨_, htimeout, hu⟩
    simp only [asPosition_eq_ok_iff, asString_eq_ok_iff, asMillis_eq_ok_iff] at *
    exact ⟨hpos, hbody, htxn, htimeout⟩
  · rintro ⟨hpos, hbody, htxn, htimeout⟩
    simp only [← asPosition_eq_ok_iff, ← asString_eq_ok_iff, ← asMillis_eq_ok_iff] at *
    obtain ⟨txnId, htxn, ht⟩ := foldlM_once_getD_iff.mpr htxn
    obtain ⟨timeout, htimeout, hu⟩ := foldlM_once_getD_iff.mpr htimeout
    exact ⟨⟨some r.position, some r.body, txnId, timeout⟩,
      ⟨foldlM_once_some_iff.mpr hpos, foldlM_once_some_iff.mpr hbody, htxn, htimeout⟩,
      rfl, rfl, ht, hu⟩

/-- The members are the items in their order, each under the name of its field. -/
def NamedItems (ms : List (Quoted × Draft)) (items : List Draft) : Prop :=
  ms.map (fun m => (m.1.read, m.2)) = (fieldNames.zip items).map fun m => (.ok m.1, m.2)

theorem members_eq_foldlM {φ : Type} {add : φ → String → Draft → Except DecodeError φ}
    {ms : List (Quoted × Draft)} {ns : List (String × Draft)}
    (h : ms.map (fun m => (m.1.read, m.2)) = ns.map fun m => (.ok m.1, m.2)) (f : φ) :
    members add none f ms = ns.foldlM (fun f m => add f m.1 m.2) f := by
  induction ns generalizing ms f with
  | nil =>
    rw [List.map_nil, List.map_eq_nil_iff] at h
    subst h
    rfl
  | cons n ns ih =>
    obtain ⟨⟨q, d⟩, ms, rfl, hfirst, hrest⟩ := List.map_eq_cons_iff.mp h
    obtain ⟨hkey, hvalue⟩ := Prod.mk.inj hfirst
    simp only at hkey hvalue
    simp only [members, hkey, hvalue, ofBreak, bind, Except.bind, List.foldlM_cons, ih hrest]

/-- An array is read as the object that names its items, errors and all. -/
theorem asRequest_array {β : Type} {body : Draft → Except DecodeError β}
    {ms : List (Quoted × Draft)} {items : List Draft} (h : NamedItems ms items)
    (hlow : 2 ≤ items.length) (hhigh : items.length ≤ 4) :
    asRequest body (array items none) = asRequest body (object ms none) := by
  rw [asRequest, asRequest, members_eq_foldlM h]
  rcases items with _ | ⟨p, _ | ⟨b, rest⟩⟩
  · simp at hlow
  · simp at hlow
  simp only [fieldNames, List.zip_cons_cons, List.foldlM_cons, requestOfItems, next, needItem,
    RequestFields.add, RequestFields.finish, once, need, bind, Except.bind, pure, Except.pure]
  cases asPosition p with
  | error e => rfl
  | ok position =>
    cases body b with
    | error e => simp [Except.map]
    | ok content =>
      rcases rest with _ | ⟨t, _ | ⟨u, _ | ⟨x, rest⟩⟩⟩
      · simp [optionalItem, close, Except.map, pure, Except.pure]
      · cases ht : asString t <;>
          simp [optionalItem, close, ht, Except.map, bind, Except.bind, pure, Except.pure]
      · cases ht : asString t <;> cases hu : asMillis u <;>
          simp [optionalItem, close, ht, hu, Except.map, bind, Except.bind, pure, Except.pure]
      · simp only [List.length_cons] at hhigh
        omega

theorem length_of_requestOfItems {β : Type} {body : Draft → Except DecodeError β}
    {stop : Option Break} {items : List Draft} {r : Request β}
    (h : requestOfItems body stop items = .ok r) : 2 ≤ items.length ∧ items.length ≤ 4 := by
  rcases items with _ | ⟨p, _ | ⟨b, _ | ⟨t, _ | ⟨u, _ | ⟨x, rest⟩⟩⟩⟩⟩
  · cases stop <;> simp [requestOfItems, next, needItem, bind, Except.bind] at h
  · cases stop <;> cases hp : asPosition p <;>
      simp [requestOfItems, next, needItem, hp, bind, Except.bind] at h
  · simp
  · simp
  · simp
  · simp only [requestOfItems, next, needItem, optionalItem, bind_eq_ok_iff] at h
    obtain ⟨_, ⟨⟩, _, -, _, ⟨⟩, _, -, _, ⟨⟩, _, -, _, ⟨⟩, _, -, _, hclose, -⟩ := h
    cases hclose

/-- What is read as a request is an object, or an array of two to four items. -/
theorem request_shape {β : Type} {body : Draft → Except DecodeError β} {s : String}
    {r : Request β} (h : decode (asRequest body) s = .ok r) :
    (∃ ms, IsText (object ms none) s) ∨
      ∃ items, IsText (array items none) s ∧ 2 ≤ items.length ∧ items.length ≤ 4 := by
  obtain ⟨d, htext, hread⟩ := decode_eq_ok_iff.mp h
  cases d with
  | object ms stop =>
    obtain ⟨cs, hspelling⟩ := htext.value
    obtain rfl : stop = none := by cases hspelling <;> rfl
    exact Or.inl ⟨ms, htext⟩
  | array items stop =>
    obtain ⟨cs, hspelling⟩ := htext.value
    obtain rfl : stop = none := by cases hspelling <;> rfl
    exact Or.inr ⟨items, htext, length_of_requestOfItems hread⟩
  | _ => simp [asRequest, mismatch_ne_ok] at hread

/-- No field has the name of this member. -/
def Other (m : Quoted × Draft) : Prop := ∀ name ∈ fieldNames, m.1.is name = false

theorem Describes.of_perm {ms ms' : List (Quoted × Draft)} {r : Request String}
    (h : ∀ name ∈ fieldNames, (named ms' name).Perm (named ms name)) (hr : Describes ms r) :
    Describes ms' r := by
  have hnil : ∀ name ∈ fieldNames, named ms name = [] → named ms' name = [] := fun name hn he =>
    List.perm_nil.mp (he ▸ h name hn)
  have hone : ∀ name ∈ fieldNames, ∀ d, named ms name = [d] → named ms' name = [d] :=
    fun name hn d he => List.perm_singleton.mp (he ▸ h name hn)
  refine ⟨?_, ?_, ?_, ?_⟩
  · exact hr.position.imp fun d hd => ⟨hone _ (by decide) d hd.1, hd.2⟩
  · exact hr.body.imp fun d hd => ⟨hone _ (by decide) d hd.1, hd.2⟩
  · exact hr.txnId.imp (fun hd => ⟨hnil _ (by decide) hd.1, hd.2⟩)
      (Exists.imp fun d hd => ⟨hone _ (by decide) d hd.1, hd.2⟩)
  · exact hr.timeout.imp (fun hd => ⟨hnil _ (by decide) hd.1, hd.2⟩)
      (Exists.imp fun d hd => ⟨hone _ (by decide) d hd.1, hd.2⟩)

section Text

variable {s : String} {ms : List (Quoted × Draft)} (hs : IsText (object ms none) s)
  (hwhole : WholeStrings ms)

include hs hwhole

theorem exists_read_key {m : Quoted × Draft} (hm : m ∈ ms) : ∃ key, m.1.read = .ok key := by
  obtain ⟨⟨pieces, stop⟩, d⟩ := m
  obtain rfl : stop = none := (hs.members_passed _ hm).1
  exact (hwhole _ hm).1.read

theorem exists_isString {name : String} {q : Quoted} (h : string q ∈ named ms name) :
    ∃ t, IsString (string q) t := by
  obtain ⟨⟨key, d⟩, hm, rfl⟩ := List.mem_map.mp h
  have hm := (List.mem_filter.mp hm).1
  have hskip : q.skip = .ok () := (hs.members_passed _ hm).2
  have hpaired := (hwhole _ hm).2 q rfl
  obtain ⟨pieces, _ | b⟩ := q
  · obtain ⟨t, ht⟩ := hpaired.read
    exact ⟨t, _, rfl, ht⟩
  · cases hskip

theorem decode_object_iff {r : Request String} :
    decode (asRequest asString) s = .ok r ↔ Describes ms r := by
  rw [decode_eq hs, asRequest_object_iff (fun m hm => exists_read_key hs hwhole hm) fun m hm =>
    (hs.members_passed m hm).2]

/-- Members that make a request are those that describe one. -/
theorem exists_describes_iff : (∃ r, Describes ms r) ↔ RequestMembers ms := by
  constructor
  · rintro ⟨r, ⟨d, hpos, hp⟩, ⟨_, hbody, q, rfl, -⟩, htxn, htimeout⟩
    refine ⟨⟨d, r.position, hpos, hp⟩, ⟨q, hbody⟩, htxn.imp And.left ?_, htimeout.imp And.left ?_⟩
    · rintro ⟨_, htxn, q, rfl, -⟩
      exact ⟨q, htxn⟩
    · rintro ⟨d, htimeout, n, hn, hlt, -⟩
      exact ⟨d, n, htimeout, hn, hlt⟩
  · rintro ⟨⟨d, p, hpos, hp⟩, ⟨q, hbody⟩, htxn, htimeout⟩
    obtain ⟨b, hb⟩ := exists_isString hs hwhole (hbody ▸ List.mem_singleton_self _)
    have htxnId : ∃ t, named ms "txn_id" = [] ∧ t = "" ∨
        ∃ d, named ms "txn_id" = [d] ∧ IsString d t := by
      rcases htxn with htxn | ⟨q, htxn⟩
      · exact ⟨"", Or.inl ⟨htxn, rfl⟩⟩
      · obtain ⟨t, ht⟩ := exists_isString hs hwhole (htxn ▸ List.mem_singleton_self _)
        exact ⟨t, Or.inr ⟨_, htxn, ht⟩⟩
    have hmillis : ∃ u : Duration, named ms "timeout_ms" = [] ∧ u = .ofSeconds 30 ∨
        ∃ d, named ms "timeout_ms" = [d] ∧
          ∃ n, PlainNumber d n ∧ n < wordLimit ∧ u = .ofMillis n := by
      rcases htimeout with htimeout | ⟨d, n, htimeout, hn, hlt⟩
      · exact ⟨_, Or.inl ⟨htimeout, rfl⟩⟩
      · exact ⟨_, Or.inr ⟨d, htimeout, n, hn, hlt, rfl⟩⟩
    obtain ⟨t, ht⟩ := htxnId
    obtain ⟨u, hu⟩ := hmillis
    exact ⟨⟨p, b, t, u⟩, ⟨d, hpos, hp⟩, ⟨_, hbody, hb⟩, ht, hu⟩

end Text

end Wire

open Draft Wire

/-- **What is read as a request.** An object is one exactly if it has one member that names a
position and one body that is a string, at most one transaction id, which is a string, and at most
one timeout, which is a number written as digits only and below the limit of words. The request is
what these members say, with an empty transaction id and thirty seconds where they say nothing.
Neither another order of the members nor members of other names among them make a difference. An
array of the first two to four values in the order of the fields is read as the object that names
them. -/
theorem request_decoded_iff {s : String} {ms : List (Quoted × Draft)}
    (hs : IsText (object ms none) s) (hwhole : WholeStrings ms) :
    ((∃ r, decode (asRequest asString) s = .ok r) ↔ RequestMembers ms) ∧
      (∀ r, decode (asRequest asString) s = .ok r ↔ Describes ms r) ∧
      (∀ s' ms' extra, IsText (object ms' none) s' → WholeStrings ms' →
        ms'.Perm (ms ++ extra) → (∀ m ∈ extra, Other m) →
        ∀ r, decode (asRequest asString) s' = .ok r ↔ decode (asRequest asString) s = .ok r) ∧
      ∀ s' items, IsText (array items none) s' → 2 ≤ items.length → items.length ≤ 4 →
        NamedItems ms items → decode (asRequest asString) s' = decode (asRequest asString) s := by
  refine ⟨?_, fun r => decode_object_iff hs hwhole, ?_, ?_⟩
  · simp only [decode_object_iff hs hwhole, exists_describes_iff hs hwhole]
  · intro s' ms' extra hs' hwhole' hperm hextra r
    have hnamed : ∀ name ∈ fieldNames, (named ms' name).Perm (named ms name) := fun name hn =>
      named_perm hperm fun m hm => hextra m hm name hn
    rw [decode_object_iff hs' hwhole', decode_object_iff hs hwhole]
    exact ⟨.of_perm fun name hn => (hnamed name hn).symm, .of_perm hnamed⟩
  · intro s' items hs' hlow hhigh hitems
    rw [decode_eq hs', decode_eq hs, asRequest_array hitems hlow hhigh]

/-- The members the other way round with a name among them that comes twice, and an array. -/
theorem request_decoded_iff_of_reordered :
    let r : Request String :=
      { position := ⟨7, by decide⟩, body := "é", txnId := "", timeout := .ofSeconds 30 }
    decode (asRequest asString) (Json.obj [("pos", .str "007"), ("body", .str "é")]).text = .ok r ∧
      decode (asRequest asString)
        (Json.obj [("x", .null), ("body", .str "é"), ("x", .arr []), ("pos", .str "007")]).text
          = .ok r ∧
      decode (asRequest asString) (Json.arr [.str "007", .str "é"]).text = .ok r := by
  intro r
  let pos : Quoted × Draft := (.of "pos", string (.of "007"))
  let body : Quoted × Draft := (.of "body", string (.of "é"))
  let extra : List (Quoted × Draft) := [(.of "x", null), (.of "x", array [] none)]
  have htext : IsText (object [pos, body] none)
      (Json.obj [("pos", .str "007"), ("body", .str "é")]).text :=
    isText_text (spelling_object (.cons ⟨rfl, spelling_str _⟩ (.cons ⟨rfl, spelling_str _⟩ .nil)))
  have htext' : IsText (object [extra[0], body, extra[1], pos] none)
      (Json.obj [("x", .null), ("body", .str "é"), ("x", .arr []), ("pos", .str "007")]).text :=
    isText_text (spelling_object (.cons ⟨rfl, .null⟩ (.cons ⟨rfl, spelling_str _⟩
      (.cons ⟨rfl, spelling_array .nil⟩ (.cons ⟨rfl, spelling_str _⟩ .nil)))))
  have hitems : IsText (array [string (.of "007"), string (.of "é")] none)
      (Json.arr [.str "007", .str "é"]).text :=
    isText_text (spelling_array (.cons (spelling_str _) (.cons (spelling_str _) .nil)))
  have hpos : pos.1.read = .ok "pos" := Quoted.read_of "pos"
  have hbody : body.1.read = .ok "body" := Quoted.read_of "body"
  have hwhole : WholeStrings [pos, body] := by
    simp [WholeStrings, pos, body, Quoted.paired_of]
  have hwhole' : WholeStrings [extra[0], body, extra[1], pos] := by
    simp [WholeStrings, pos, body, extra, Quoted.paired_of]
  have hdescribes : Describes [pos, body] r := by
    have hnamed : named [pos, body] "pos" = [pos.2] ∧ named [pos, body] "body" = [body.2] ∧
        named [pos, body] "txn_id" = [] ∧ named [pos, body] "timeout_ms" = [] := by
      simp [named, is_of_read hpos, is_of_read hbody]
    obtain ⟨hp, hb, ht, hu⟩ := hnamed
    have hparse : Position.parse? "007" = some r.position := by decide
    exact ⟨⟨_, hp, Or.inl ⟨"007", ⟨_, rfl, Quoted.read_of "007"⟩,
        Position.parse?_eq_some_iff.mp hparse⟩⟩,
      ⟨_, hb, _, rfl, Quoted.read_of "é"⟩, Or.inl ⟨ht, rfl⟩, Or.inl ⟨hu, rfl⟩⟩
  have hextra : ∀ m ∈ extra, Other m := by
    simp [extra, Other, fieldNames, is_of_read (Quoted.read_of "x")]
  have hperm : [extra[0], body, extra[1], pos].Perm ([pos, body] ++ extra) :=
    (List.reverse_perm _).symm.trans
      (.cons pos (.trans (.swap body extra[1] _) (.cons body (.swap extra[0] extra[1] []))))
  obtain ⟨-, hvalue, hreorder, harray⟩ := request_decoded_iff htext hwhole
  have hs := (hvalue r).mpr hdescribes
  refine ⟨hs, (hreorder _ _ extra htext' hwhole' hperm hextra r).mpr hs, ?_⟩
  rw [harray _ _ hitems (by decide) (by decide) ?_, hs]
  simp [NamedItems, fieldNames, hpos, hbody, pos, body]

end LongPoll
