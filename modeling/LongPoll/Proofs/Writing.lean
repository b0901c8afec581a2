/-
# What the writer writes

Each value that is made of strings, integers of 64 bits, and arrays and sorted objects of such
(`Json.Plain`) is written as a text of JSON, and the draft of that text has the value again, if
arrays and objects are not nested deeper than the reader goes (`Json.Plain.exists_draft`). Strings
are written with the escapes that they need and no others, integers with their digits, and arrays
and objects with no blanks.

Key definitions: `Draft.Quoted.of`, `Draft.Numeral.ofInt`, `Json.depth`, `Json.Plain`.
Key theorems: `Draft.spelling_str`, `Draft.spelling_int`, `Draft.spelling_object`,
`Json.ofMembers_of_sorted`, `Json.Plain.exists_draft`.
-/
import Mathlib.Data.List.Forall2
import LongPoll.Proofs.Grammar

namespace LongPoll

namespace Draft

/-! ### Strings -/

/-- A string as it is written: one piece for each character. -/
def Quoted.of (s : String) : Quoted := ⟨s.toList.map .char, none⟩

@[simp] theorem Quoted.read_of (s : String) : (Quoted.of s).read = .ok s := by
  have hjoin : ∀ cs : List Char, join none (cs.map .char) = .ok cs := by
    intro cs
    induction cs with
    | nil => rfl
    | cons c cs ih =>
      rw [List.map_cons, join, ih]
      rfl
  rw [read, of, hjoin]
  exact congrArg Except.ok String.ofList_toList

theorem Quoted.paired_of (s : String) : Paired (of s).pieces := by
  have hpaired : ∀ cs : List Char, Paired (cs.map .char) := by
    intro cs
    induction cs with
    | nil => exact .nil
    | cons c cs ih => exact .char c ih
  exact hpaired s.toList

theorem hexUnit?_control {n : Nat} (hn : n < 0x20) :
    hexUnit? '0' '0' (Nat.digitChar (n / 16)) (Nat.digitChar (n % 16)) = some n := by
  have hall : ∀ n < 0x20,
      hexUnit? '0' '0' (Nat.digitChar (n / 16)) (Nat.digitChar (n % 16)) = some n := by decide
  exact hall n hn

theorem pieceOfUnit_toNat {c : Char} (hc : c.toNat < 0x20) : pieceOfUnit c.toNat = .char c := by
  have hwhole : isHalf c.toNat = false := by
    simp only [isHalf, Bool.and_eq_false_iff, decide_eq_false_iff_not]
    omega
  rw [pieceOfUnit, hwhole, Char.ofNat_toNat]
  rfl

theorem pieceSpelling_escape (c : Char) : PieceSpelling (.char c) (Json.escape c) := by
  unfold Json.escape
  split
  case h_8 hquote hescape _ _ _ _ _ =>
    split
    · next hcontrol =>
      rw [← pieceOfUnit_toNat hcontrol]
      exact .unit (hexUnit?_control hcontrol)
    · next hcontrol => exact .plain hquote hescape (Nat.not_lt.mp hcontrol)
  all_goals exact .short (by decide)

theorem stringSpelling_quoted (cs : List Char) :
    StringSpelling (cs.map .char) (cs.flatMap Json.escape ++ ['"']) := by
  induction cs with
  | nil => exact .close
  | cons c cs ih =>
    rw [List.flatMap_cons, List.append_assoc]
    exact .piece (pieceSpelling_escape c) ih

theorem spelling_str (s : String) :
    Spelling (.value (string (.of s))) (Json.str s).chars := by
  rw [Json.chars]
  exact .string (stringSpelling_quoted s.toList)

/-! ### Integers -/

/-- An integer as it is written: its digits, and a sign if it is negative. -/
def Numeral.ofInt : Int → Numeral
  | .ofNat n => ⟨false, Nat.toDigits 10 n, none, none⟩
  | .negSucc n => ⟨true, Nat.toDigits 10 (n + 1), none, none⟩

theorem digits_toDigits (n : Nat) : Digits (Nat.toDigits 10 n) :=
  ⟨Nat.toDigits_ne_nil, fun _ hc => Nat.isDigit_of_mem_toDigits (by decide) (by decide) hc⟩

theorem numeralSpelling_digits (n : Int) : NumeralSpelling (.ofInt n) (Json.digits n) := by
  have hwhole (n : Nat) := NumeralSpelling.positive (digits_toDigits n)
    (Decimal.not_padded_toDigits n) .none .none
  have hnegative (n : Nat) := NumeralSpelling.negative (digits_toDigits n)
    (Decimal.not_padded_toDigits n) .none .none
  cases n with
  | ofNat n => simpa [Numeral.ofInt, Json.digits] using hwhole n
  | negSucc n => simpa [Numeral.ofInt, Json.digits] using hnegative (n + 1)

theorem spelling_int (n : Int) :
    Spelling (.value (number (.ofInt n))) (Json.int n).chars := by
  rw [Json.chars]
  exact .number (numeralSpelling_digits n)

theorem Numeral.read_ofInt {n : Int} (hlow : -(2 ^ 63) ≤ n) (hhigh : n < 2 ^ 64) :
    (ofInt n).read = .ok (.int n) := by
  have hlimit : wordLimit = 2 ^ 64 := by decide
  cases n with
  | ofNat n =>
    have hlt : n < wordLimit := by
      rw [hlimit]
      exact Int.ofNat_lt.mp hhigh
    simp [ofInt, read, isWhole, wholeValue, Nat.ofDigitChars_ten_toDigits, hlt]
  | negSucc n =>
    have hle : n + 1 ≤ wordLimit / 2 := by
      rw [hlimit]
      omega
    simp [ofInt, read, isWhole, wholeValue, Nat.ofDigitChars_ten_toDigits, hle, Int.negSucc_eq]

/-! ### Arrays and objects -/

theorem Spelling.bare {d : Draft} {cs : List Char} (h : Spelling (.value d) cs) :
    Spelling (.item d) cs := by
  have hblank : Blank [] := fun c hc => by cases hc
  simpa using Spelling.item hblank h hblank

theorem spelling_items {v : Json} {vs : List Json} {d : Draft} {ds : List Draft}
    (h : Spelling (.value d) v.chars)
    (hs : List.Forall₂ (fun v d => Spelling (.value d) v.chars) vs ds) :
    Spelling (.items (d :: ds)) (v.chars ++ Json.itemsAfter vs) := by
  induction hs generalizing v d with
  | nil =>
    rw [Json.itemsAfter]
    exact .lastItem h.bare
  | cons hnext hs ih =>
    rw [Json.itemsAfter]
    exact .items h.bare (ih hnext)

theorem spelling_array {vs : List Json} {ds : List Draft}
    (h : List.Forall₂ (fun v d => Spelling (.value d) v.chars) vs ds) :
    Spelling (.value (array ds none)) (Json.arr vs).chars := by
  cases h with
  | nil => exact .emptyArray (b := []) fun c hc => by cases hc
  | cons hfirst hs =>
    rw [Json.chars]
    exact .array (spelling_items hfirst hs)

/-- What is written for a member: its key, and what is written for its value. -/
def WrittenMember (m : String × Json) (d : Quoted × Draft) : Prop :=
  d.1 = .of m.1 ∧ Spelling (.value d.2) m.2.chars

theorem WrittenMember.spelling {m : String × Json} {d : Quoted × Draft} (h : WrittenMember m d) :
    Spelling (.member d) (Json.quoted m.1 ++ ':' :: m.2.chars) := by
  obtain ⟨key, value⟩ := d
  obtain ⟨rfl, hvalue⟩ := h
  have hblank : Blank [] := fun c hc => by cases hc
  exact .member hblank (stringSpelling_quoted m.1.toList) hblank hvalue.bare

theorem spelling_members {m : String × Json} {ms : List (String × Json)} {d : Quoted × Draft}
    {ds : List (Quoted × Draft)} (h : WrittenMember m d) (hs : List.Forall₂ WrittenMember ms ds) :
    Spelling (.members (d :: ds))
      (Json.quoted m.1 ++ ':' :: m.2.chars ++ Json.membersAfter ms) := by
  induction hs generalizing m d with
  | nil =>
    rw [Json.membersAfter]
    exact .lastMember h.spelling
  | @cons next _ _ _ hnext hs ih =>
    obtain ⟨k, v⟩ := next
    have hmore := Spelling.members h.spelling (ih hnext)
    rw [Json.membersAfter]
    simpa using hmore

theorem spelling_object {ms : List (String × Json)} {ds : List (Quoted × Draft)}
    (h : List.Forall₂ WrittenMember ms ds) :
    Spelling (.value (object ds none)) (Json.obj ms).chars := by
  cases h with
  | nil => exact .emptyObject (b := []) fun c hc => by cases hc
  | @cons m _ _ _ hfirst hs =>
    obtain ⟨k, v⟩ := m
    have hmembers := Spelling.object (spelling_members hfirst hs)
    rw [Json.chars]
    simpa using hmembers

/-- A written value is the text of its draft. -/
theorem isText_text {v : Json} {d : Draft} (h : Spelling (.value d) v.chars) :
    IsText d v.text := by
  rw [IsText, Json.text, String.toList_ofList]
  exact h.bare

/-! ### Values of drafts -/

theorem values_eq {depth : Nat} {vs : List Json} {ds : List Draft}
    (h : List.Forall₂ (fun v d => value depth d = .ok v) vs ds) :
    values depth none ds = .ok vs := by
  induction h with
  | nil => rfl
  | cons hfirst hs ih =>
    rw [values, hfirst, ih]
    rfl

theorem memberValues_eq {depth : Nat} {ms : List (String × Json)} {ds : List (Quoted × Draft)}
    (h : List.Forall₂ (fun m d => d.1 = .of m.1 ∧ value depth d.2 = .ok m.2) ms ds) :
    memberValues depth none ds = .ok ms := by
  induction h with
  | nil => rfl
  | @cons m d _ _ hfirst hs ih =>
    obtain ⟨key, d⟩ := d
    obtain ⟨rfl, hvalue⟩ := hfirst
    rw [memberValues, Quoted.read_of, hvalue, ih]
    rfl

end Draft

namespace Json

open Draft

/-! ### Nesting -/

mutual

/-- How deep arrays and objects are nested, an outermost one counting. -/
def depth : Json → Nat
  | arr items => depthItems items + 1
  | obj members => depthMembers members + 1
  | null | bool _ | int _ | float _ | str _ => 0

def depthItems : List Json → Nat
  | [] => 0
  | v :: rest => max (depth v) (depthItems rest)

def depthMembers : List (String × Json) → Nat
  | [] => 0
  | (_, v) :: rest => max (depth v) (depthMembers rest)

end

theorem depth_le_depthItems {v : Json} {vs : List Json} (h : v ∈ vs) :
    v.depth ≤ depthItems vs := by
  induction vs with
  | nil => cases h
  | cons w vs ih =>
    rw [depthItems]
    rcases List.mem_cons.mp h with rfl | h
    · exact Nat.le_max_left _ _
    · exact Nat.le_trans (ih h) (Nat.le_max_right _ _)

theorem depth_le_depthMembers {m : String × Json} {ms : List (String × Json)} (h : m ∈ ms) :
    m.2.depth ≤ depthMembers ms := by
  induction ms with
  | nil => cases h
  | cons w ms ih =>
    obtain ⟨k, v⟩ := w
    rw [depthMembers]
    rcases List.mem_cons.mp h with rfl | h
    · exact Nat.le_max_left _ _
    · exact Nat.le_trans (ih h) (Nat.le_max_right _ _)

/-! ### Plain values -/

/-- No floats, integers of 64 bits, and objects whose members are sorted by their keys. -/
inductive Plain : Json → Prop
  | null : Plain null
  | bool (b : Bool) : Plain (bool b)
  | int {n : Int} (hlow : -(2 ^ 63) ≤ n) (hhigh : n < 2 ^ 64) : Plain (int n)
  | str (s : String) : Plain (str s)
  | arr {items : List Json} (h : ∀ v ∈ items, Plain v) : Plain (arr items)
  | obj {members : List (String × Json)} (hsorted : members.Pairwise fun m n => m.1 < n.1)
      (h : ∀ m ∈ members, Plain m.2) : Plain (obj members)

theorem insert_of_lt {key : String} {value : Json} {ms : List (String × Json)}
    (h : ∀ m ∈ ms, m.1 < key) : insert key value ms = ms ++ [(key, value)] := by
  induction ms with
  | nil => rfl
  | cons m ms ih =>
    obtain ⟨k, v⟩ := m
    have hk : k < key := h _ List.mem_cons_self
    have hne : key ≠ k := by
      rintro rfl
      exact String.lt_irrefl _ hk
    rw [insert, if_neg (String.lt_asymm hk), if_neg hne,
      ih fun m hm => h m (List.mem_cons_of_mem _ hm)]
    rfl

theorem ofMembers_of_sorted {ms : List (String × Json)}
    (h : ms.Pairwise fun m n => m.1 < n.1) : ofMembers ms = obj ms := by
  have hfold : ∀ sorted : List (String × Json), (∀ m ∈ sorted, ∀ n ∈ ms, m.1 < n.1) →
      ms.foldl (fun sorted m => insert m.1 m.2 sorted) sorted = sorted ++ ms := by
    induction h with
    | nil => exact fun sorted _ => (List.append_nil sorted).symm
    | @cons m ms hm hms ih =>
      intro sorted hsorted
      have hlast : insert m.1 m.2 sorted = sorted ++ [(m.1, m.2)] :=
        insert_of_lt fun n hn => hsorted n hn m List.mem_cons_self
      rw [List.foldl_cons, hlast, ih, List.append_assoc, List.singleton_append]
      intro n hn n' hn'
      rcases List.mem_append.mp hn with hn | hn
      · exact hsorted n hn n' (List.mem_cons_of_mem _ hn')
      · rw [List.mem_singleton.mp hn]
        exact hm n' hn'
  rw [ofMembers, hfold [] fun m hm => by cases hm]
  rfl

/-- A draft of what is written for the value, that has the value again where arrays and objects
may be nested deeper than `limit`. -/
def Recovered (limit : Nat) (v : Json) (d : Draft) : Prop :=
  Spelling (.value d) v.chars ∧ ∀ depth, limit < depth → d.value depth = .ok v

theorem Recovered.mono {limit deeper : Nat} {v : Json} {d : Draft} (h : Recovered limit v d)
    (hle : limit ≤ deeper) : Recovered deeper v d :=
  ⟨h.1, fun depth hdepth => h.2 depth (Nat.lt_of_le_of_lt hle hdepth)⟩

theorem exists_forall₂ {α β : Type} {P : α → β → Prop} {as : List α}
    (h : ∀ a ∈ as, ∃ b, P a b) : ∃ bs, List.Forall₂ P as bs := by
  induction as with
  | nil => exact ⟨[], .nil⟩
  | cons a as ih =>
    obtain ⟨b, hb⟩ := h a List.mem_cons_self
    obtain ⟨bs, hbs⟩ := ih fun a ha => h a (List.mem_cons_of_mem _ ha)
    exact ⟨b :: bs, .cons hb hbs⟩

/-- **A plain value is recovered from its text**, with as much nesting as it has. -/
theorem Plain.exists_draft {v : Json} (h : v.Plain) : ∃ d, Recovered v.depth v d := by
  induction h with
  | null => exact ⟨.null, .null, fun depth _ => rfl⟩
  | bool b =>
    cases b with
    | true => exact ⟨.bool true, .boolTrue, fun depth _ => rfl⟩
    | false => exact ⟨.bool false, .boolFalse, fun depth _ => rfl⟩
  | @int n hlow hhigh =>
    refine ⟨.number (.ofInt n), spelling_int n, fun depth _ => ?_⟩
    rw [value, Numeral.read_ofInt hlow hhigh]
    rfl
  | str s =>
    refine ⟨.string (.of s), spelling_str s, fun depth _ => ?_⟩
    rw [value, Quoted.read_of]
    rfl
  | @arr items h ih =>
    have hitems : ∀ v ∈ items, ∃ d, Recovered (depthItems items) v d := fun v hv =>
      (ih v hv).imp fun d hd => hd.mono (depth_le_depthItems hv)
    obtain ⟨ds, hds⟩ := exists_forall₂ hitems
    refine ⟨.array ds none, spelling_array (hds.imp fun v d hd => hd.1), fun depth hdepth => ?_⟩
    rw [Json.depth] at hdepth
    have hvalues : values (depth - 1) none ds = .ok items :=
      values_eq (hds.imp fun v d hd => hd.2 _ (by omega))
    rw [value, if_neg (by omega), hvalues]
    rfl
  | @obj members hsorted h ih =>
    have hmembers : ∀ m ∈ members, ∃ d : Quoted × Draft, d.1 = .of m.1 ∧
        Recovered (depthMembers members) m.2 d.2 := fun m hm =>
      (ih m hm).elim fun d hd => ⟨(.of m.1, d), rfl, hd.mono (depth_le_depthMembers hm)⟩
    obtain ⟨ds, hds⟩ := exists_forall₂ hmembers
    refine ⟨.object ds none, spelling_object (hds.imp fun m d hd => ⟨hd.1, hd.2.1⟩),
      fun depth hdepth => ?_⟩
    rw [Json.depth] at hdepth
    have hvalues : memberValues (depth - 1) none ds = .ok members :=
      memberValues_eq (hds.imp fun m d hd => ⟨hd.1, hd.2.2 _ (by omega)⟩)
    rw [value, if_neg (by omega), hvalues]
    exact congrArg Except.ok (ofMembers_of_sorted hsorted)

end Json
end LongPoll
