/-
# The grammar of JSON text

Which texts are JSON is said here apart from the reader: `Spelling` relates a draft without a break
to each of its texts, rule by rule. A value may have several texts, as blanks may stand around it
and a character of a string may be written as it is, by a short escape, or by its unit; and the text
of a member keeps how its key was written. Half a character may be written as well: a string all of
whose halves stand in pairs is one of characters only (`Paired`).

Key definitions: `Draft.PieceSpelling`, `Draft.StringSpelling`, `Draft.NumeralSpelling`,
`Draft.Part`, `Draft.Spelling`, `Draft.Paired`.
Key theorems: `Draft.Paired.read`, `Draft.Spelling.head`, `Draft.Spelling.passed`.
-/
import LongPoll.Json.Decode
import LongPoll.Proofs.PositionText

namespace LongPoll.Draft

/-! ### Strings -/

/-- Blanks only, or nothing. -/
def Blank (cs : List Char) : Prop := ∀ c ∈ cs, isBlank c = true

/-- The letters of the short escapes and the characters that they stand for. -/
def shortEscapes : List (Char × Char) :=
  [('"', '"'), ('\\', '\\'), ('/', '/'), ('b', '\x08'), ('f', '\x0c'), ('n', '\n'), ('r', '\r'),
   ('t', '\t')]

inductive PieceSpelling : Piece → List Char → Prop
  | plain {c : Char} (hquote : c ≠ '"') (hescape : c ≠ '\\') (hcontrol : 0x20 ≤ c.toNat) :
    PieceSpelling (.char c) [c]
  | short {e c : Char} (h : (e, c) ∈ shortEscapes) : PieceSpelling (.char c) ['\\', e]
  | unit {a b c d : Char} {u : Nat} (h : hexUnit? a b c d = some u) :
    PieceSpelling (pieceOfUnit u) ['\\', 'u', a, b, c, d]

/-- The texts of a string after its first quote. -/
inductive StringSpelling : List Piece → List Char → Prop
  | close : StringSpelling [] ['"']
  | piece {p : Piece} {ps : List Piece} {cs rest : List Char} (hp : PieceSpelling p cs)
      (h : StringSpelling ps rest) : StringSpelling (p :: ps) (cs ++ rest)

/-! ### Numbers -/

/-- Digits, of which there is one at least. -/
def Digits (ds : List Char) : Prop := ds ≠ [] ∧ ∀ c ∈ ds, c.isDigit = true

inductive FractionSpelling : Option (List Char) → List Char → Prop
  | none : FractionSpelling none []
  | some {ds : List Char} (h : Digits ds) : FractionSpelling (some ds) ('.' :: ds)

inductive ExponentSpelling : Option (Bool × List Char) → List Char → Prop
  | none : ExponentSpelling none []
  | plain {e : Char} {ds : List Char} (he : e = 'e' ∨ e = 'E') (h : Digits ds) :
    ExponentSpelling (some (false, ds)) (e :: ds)
  | plus {e : Char} {ds : List Char} (he : e = 'e' ∨ e = 'E') (h : Digits ds) :
    ExponentSpelling (some (false, ds)) (e :: '+' :: ds)
  | minus {e : Char} {ds : List Char} (he : e = 'e' ∨ e = 'E') (h : Digits ds) :
    ExponentSpelling (some (true, ds)) (e :: '-' :: ds)

/-- The texts of a number: there is no zero in front of its other digits. -/
inductive NumeralSpelling : Numeral → List Char → Prop
  | positive {whole fs es : List Char} {fraction : Option (List Char)}
      {exponent : Option (Bool × List Char)} (hw : Digits whole) (hp : ¬ Decimal.Padded whole)
      (hf : FractionSpelling fraction fs) (he : ExponentSpelling exponent es) :
    NumeralSpelling ⟨false, whole, fraction, exponent⟩ (whole ++ (fs ++ es))
  | negative {whole fs es : List Char} {fraction : Option (List Char)}
      {exponent : Option (Bool × List Char)} (hw : Digits whole) (hp : ¬ Decimal.Padded whole)
      (hf : FractionSpelling fraction fs) (he : ExponentSpelling exponent es) :
    NumeralSpelling ⟨true, whole, fraction, exponent⟩ ('-' :: (whole ++ (fs ++ es)))

/-! ### Values -/

/-- What a part of a text can hold. -/
inductive Part
  | value (d : Draft)
  /-- A value with what blanks stand around it. -/
  | item (d : Draft)
  | items (ds : List Draft)
  | member (m : Quoted × Draft)
  | members (ms : List (Quoted × Draft))

/-- The texts of a part. -/
inductive Spelling : Part → List Char → Prop
  | null : Spelling (.value null) ['n', 'u', 'l', 'l']
  | boolTrue : Spelling (.value (bool true)) ['t', 'r', 'u', 'e']
  | boolFalse : Spelling (.value (bool false)) ['f', 'a', 'l', 's', 'e']
  | number {n : Numeral} {cs : List Char} (h : NumeralSpelling n cs) :
    Spelling (.value (number n)) cs
  | string {ps : List Piece} {cs : List Char} (h : StringSpelling ps cs) :
    Spelling (.value (string ⟨ps, none⟩)) ('"' :: cs)
  | emptyArray {b : List Char} (hb : Blank b) :
    Spelling (.value (array [] none)) ('[' :: (b ++ [']']))
  | array {ds : List Draft} {cs : List Char} (h : Spelling (.items ds) cs) :
    Spelling (.value (array ds none)) ('[' :: cs)
  | emptyObject {b : List Char} (hb : Blank b) :
    Spelling (.value (object [] none)) ('\x7b' :: (b ++ ['\x7d']))
  | object {ms : List (Quoted × Draft)} {cs : List Char} (h : Spelling (.members ms) cs) :
    Spelling (.value (object ms none)) ('\x7b' :: cs)
  | item {d : Draft} {b cs a : List Char} (hb : Blank b) (h : Spelling (.value d) cs)
      (ha : Blank a) : Spelling (.item d) (b ++ (cs ++ a))
  | lastItem {d : Draft} {cs : List Char} (h : Spelling (.item d) cs) :
    Spelling (.items [d]) (cs ++ [']'])
  | items {d : Draft} {ds : List Draft} {cs rest : List Char} (h : Spelling (.item d) cs)
      (hs : Spelling (.items ds) rest) : Spelling (.items (d :: ds)) (cs ++ ',' :: rest)
  | member {ps : List Piece} {d : Draft} {b ks a cs : List Char} (hb : Blank b)
      (hk : StringSpelling ps ks) (ha : Blank a) (h : Spelling (.item d) cs) :
    Spelling (.member (⟨ps, none⟩, d)) (b ++ '"' :: (ks ++ (a ++ ':' :: cs)))
  | lastMember {m : Quoted × Draft} {cs : List Char} (h : Spelling (.member m) cs) :
    Spelling (.members [m]) (cs ++ ['\x7d'])
  | members {m : Quoted × Draft} {ms : List (Quoted × Draft)} {cs rest : List Char}
      (h : Spelling (.member m) cs) (hs : Spelling (.members ms) rest) :
    Spelling (.members (m :: ms)) (cs ++ ',' :: rest)

/-- A text of a value: nothing but the value and blanks around it. -/
def IsText (d : Draft) (s : String) : Prop := Spelling (.item d) s.toList

/-! ### Pairs of halves -/

/-- All halves stand in pairs, first a high one and then a low one. -/
inductive Paired : List Piece → Prop
  | nil : Paired []
  | char (c : Char) {ps : List Piece} (h : Paired ps) : Paired (.char c :: ps)
  | pair {high low : Nat} {ps : List Piece} (hhigh : 0xd800 ≤ high ∧ high < 0xdc00)
      (hlow : 0xdc00 ≤ low ∧ low < 0xe000) (h : Paired ps) :
    Paired (.half high :: .half low :: ps)

theorem Paired.join {ps : List Piece} (h : Paired ps) : ∃ cs, join none ps = .ok cs := by
  induction h with
  | nil => exact ⟨[], rfl⟩
  | char c h ih =>
    obtain ⟨cs, hcs⟩ := ih
    exact ⟨c :: cs, by rw [Draft.join, hcs]; rfl⟩
  | @pair high low ps hhigh hlow h ih =>
    obtain ⟨cs, hcs⟩ := ih
    have hboth : joinHalves? high low
        = some (Char.ofNat (0x10000 + (high - 0xd800) * 0x400 + (low - 0xdc00))) := by
      simp [joinHalves?, hhigh.2, hlow.1]
    exact ⟨_, by rw [Draft.join, hboth, hcs]; rfl⟩

theorem Paired.read {ps : List Piece} (h : Paired ps) :
    ∃ s, Quoted.read ⟨ps, none⟩ = .ok s := by
  obtain ⟨cs, hcs⟩ := h.join
  exact ⟨String.ofList cs, by rw [Quoted.read, hcs]; rfl⟩

/-! ### How a value begins -/

theorem ne_of_isDigit {c x : Char} (hc : c.isDigit = true) (hx : x.isDigit = false) : c ≠ x := by
  rintro rfl
  rw [hc] at hx
  cases hx

theorem isBlank_of_isDigit {c : Char} (hc : c.isDigit = true) : isBlank c = false := by
  have hne : ∀ x : Char, x.isDigit = false → (c == x) = false := fun x hx =>
    beq_eq_false_iff_ne.mpr (ne_of_isDigit hc hx)
  rw [isBlank, hne ' ' rfl, hne '\n' rfl, hne '\t' rfl, hne '\r' rfl]
  rfl

theorem NumeralSpelling.head {n : Numeral} {cs : List Char} (h : NumeralSpelling n cs) :
    ∃ c rest, cs = c :: rest ∧ (c = '-' ∨ c.isDigit = true) := by
  cases h with
  | @positive whole fs es fraction exponent hw hp hf he =>
    cases whole with
    | nil => exact absurd rfl hw.1
    | cons c rest => exact ⟨c, rest ++ (fs ++ es), rfl, Or.inr (hw.2 c List.mem_cons_self)⟩
  | negative hw hp hf he => exact ⟨'-', _, rfl, Or.inl rfl⟩

/-- A value does not begin with a blank, nor as an array ends. -/
theorem Spelling.head {d : Draft} {cs : List Char} (h : Spelling (.value d) cs) :
    ∃ c rest, cs = c :: rest ∧ isBlank c = false ∧ c ≠ ']' := by
  cases h with
  | number h =>
    obtain ⟨c, rest, rfl, hc⟩ := h.head
    refine ⟨c, rest, rfl, ?_⟩
    rcases hc with rfl | hc
    · decide
    · exact ⟨isBlank_of_isDigit hc, ne_of_isDigit hc rfl⟩
  | _ => exact ⟨_, _, rfl, by decide⟩

/-! ### Passing over a value -/

/-- A part can be passed over, and the members of an object one by one as well. -/
def Part.Passed : Part → Prop
  | .value d | .item d => d.skip = .ok ()
  | .items ds => skipItems none ds = .ok ()
  | .member m => m.1.stop = none ∧ m.2.skip = .ok ()
  | .members ms =>
    (∀ m ∈ ms, m.1.stop = none ∧ m.2.skip = .ok ()) ∧ skipMembers none ms = .ok ()

/-- What has a text can be passed over. -/
theorem Spelling.passed {p : Part} {cs : List Char} (h : Spelling p cs) : p.Passed := by
  induction h with
  | null | boolTrue | boolFalse | number h | string h | emptyArray hb | emptyObject hb => rfl
  | array h ih => exact ih
  | object h ih => exact ih.2
  | item hb h ha ih => exact ih
  | lastItem h ih =>
    simp only [Part.Passed] at ih ⊢
    rw [skipItems, ih]
    rfl
  | items h hs ih ihs =>
    simp only [Part.Passed] at ih ihs ⊢
    rw [skipItems, ih]
    exact ihs
  | member hb hk ha h ih => exact ⟨rfl, ih⟩
  | @lastMember m cs h ih =>
    obtain ⟨key, d⟩ := m
    refine ⟨fun n hn => List.mem_singleton.mp hn ▸ ih, ?_⟩
    rw [skipMembers, Quoted.skip, ih.1, ih.2]
    rfl
  | @members m ms cs rest h hs ih ihs =>
    obtain ⟨key, d⟩ := m
    refine ⟨List.forall_mem_cons.mpr ⟨ih, ihs.1⟩, ?_⟩
    rw [skipMembers, Quoted.skip, ih.1, ih.2]
    exact ihs.2

theorem IsText.value {d : Draft} {s : String} (h : IsText d s) :
    ∃ cs, Spelling (.value d) cs := by
  unfold IsText at h
  generalize s.toList = cs at h
  cases h with
  | item hb h ha => exact ⟨_, h⟩

/-- In the text of an object all keys and all values are whole. -/
theorem IsText.members_passed {ms : List (Quoted × Draft)} {s : String}
    (h : IsText (Draft.object ms none) s) :
    ∀ m ∈ ms, m.1.stop = none ∧ m.2.skip = .ok () := by
  obtain ⟨cs, h⟩ := h.value
  cases h with
  | emptyObject hb => exact fun m hm => by cases hm
  | object h => exact h.passed.1

end LongPoll.Draft
