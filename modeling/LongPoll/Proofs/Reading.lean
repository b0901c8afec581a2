/-
# What the reader finds in a text

The reader goes through a text once, and makes one draft of it. It is the one that the text spells
(`Spelling.read`): by induction on the spelling, each function of the reader takes exactly its part
off the front of a text, if what comes after the part cannot be taken for more of it. Only numbers
are in danger of that (`Delimited`); all other parts have an end of their own.

Each step of the reader takes a character or goes into a part, so fuel for twice the characters is
enough. So a text spells one draft only (`IsText.unique`), and is decoded as that draft is
(`decode_eq`).

Key definitions: `Draft.Delimited`, `Draft.Part.Read`.
Key theorems: `Draft.StringSpelling.read`, `Draft.NumeralSpelling.read`, `Draft.Spelling.read`,
`Draft.IsText.unique`, `Draft.decode_eq`.
-/
import Mathlib.Data.List.DropRight
import LongPoll.Proofs.Grammar

namespace LongPoll.Draft

/-! ### Blanks -/

theorem skipBlank_append {b : List Char} (hb : Blank b) (cs : List Char) :
    skipBlank (b ++ cs) = skipBlank cs :=
  List.dropWhile_append_of_pos hb

theorem skipBlank_cons {c : Char} (hc : isBlank c = false) (cs : List Char) :
    skipBlank (c :: cs) = c :: cs :=
  List.dropWhile_cons_of_neg (by rw [hc]; exact Bool.false_ne_true)

theorem skipBlank_skipBlank (cs : List Char) : skipBlank (skipBlank cs) = skipBlank cs :=
  List.dropWhile_idempotent _ cs

/-! ### Strings -/

theorem readEscape_short {e c : Char} (h : (e, c) ∈ shortEscapes) (cs : List Char) :
    readEscape (e :: cs) = .ok (.char c, cs) := by
  simp only [shortEscapes, List.mem_cons, Prod.mk.injEq, List.not_mem_nil, or_false] at h
  rcases h with ⟨rfl, rfl⟩ | ⟨rfl, rfl⟩ | ⟨rfl, rfl⟩ | ⟨rfl, rfl⟩ | ⟨rfl, rfl⟩ | ⟨rfl, rfl⟩ |
    ⟨rfl, rfl⟩ | ⟨rfl, rfl⟩ <;> rfl

theorem readEscape_unit {a b c d : Char} {u : Nat} (h : hexUnit? a b c d = some u)
    (cs : List Char) : readEscape ('u' :: a :: b :: c :: d :: cs) = .ok (pieceOfUnit u, cs) := by
  simp [readEscape, h]

theorem StringSpelling.read {ps : List Piece} {cs : List Char} (h : StringSpelling ps cs)
    {fuel : Nat} (hfuel : cs.length ≤ fuel) (rest : List Char) :
    readPieces fuel (cs ++ rest) = (⟨ps, none⟩, some rest) := by
  induction h generalizing fuel with
  | close =>
    cases fuel with
    | zero => simp at hfuel
    | succ fuel => rfl
  | @piece p ps cs more hp h ih =>
    have hmore : more.length + 1 ≤ fuel := by
      have : 0 < cs.length := by cases hp <;> simp
      rw [List.length_append] at hfuel
      omega
    obtain ⟨fuel, rfl⟩ : ∃ k, fuel = k + 1 := ⟨fuel - 1, by omega⟩
    have hrest := ih (show more.length ≤ fuel by omega)
    rw [List.append_assoc]
    cases hp with
    | plain hquote hescape hcontrol =>
      have hctrl : ¬ _ < _ := Nat.not_lt.mpr hcontrol
      simp [readPieces, hquote, hescape, hctrl, hrest]
    | short he => simp [readPieces, readEscape_short he, hrest]
    | unit hu => simp [readPieces, readEscape_unit hu, hrest]

/-! ### Numbers -/

/-- What comes after a number, if anything, is no part of it. -/
def Delimited (rest : List Char) : Prop :=
  ∀ c ∈ rest.head?, c.isDigit = false ∧ c ≠ '.' ∧ c ≠ 'e' ∧ c ≠ 'E'

theorem Blank.delimited {b rest : List Char} (hb : Blank b) (hr : Delimited rest) :
    Delimited (b ++ rest) := by
  cases b with
  | nil => exact hr
  | cons x b =>
    rintro c ⟨rfl⟩
    have hblank := hb x List.mem_cons_self
    simp only [isBlank, Bool.or_eq_true, beq_iff_eq] at hblank
    rcases hblank with ((rfl | rfl) | rfl) | rfl <;> decide

theorem readDigits_append {ds rest : List Char} (hd : Digits ds)
    (hr : ∀ c ∈ rest.head?, c.isDigit = false) : readDigits (ds ++ rest) = .ok (ds, rest) := by
  have hstop : rest.takeWhile Char.isDigit = [] ∧ rest.dropWhile Char.isDigit = rest := by
    cases rest with
    | nil => exact ⟨rfl, rfl⟩
    | cons c rest => simp [hr c rfl]
  obtain ⟨hne, hdigits⟩ := hd
  cases ds with
  | nil => exact absurd rfl hne
  | cons c ds =>
    have htake : (c :: ds ++ rest).takeWhile Char.isDigit = c :: ds := by
      rw [List.takeWhile_append_of_pos hdigits, hstop.1, List.append_nil]
    have hdrop : (c :: ds ++ rest).dropWhile Char.isDigit = rest := by
      rw [List.dropWhile_append_of_pos hdigits, hstop.2]
    unfold readDigits
    simp only [List.cons_append, hdigits c List.mem_cons_self, if_true] at htake hdrop ⊢
    rw [htake, hdrop]

theorem readWhole_append {whole rest : List Char} (hw : Digits whole)
    (hp : ¬ Decimal.Padded whole) (hr : ∀ c ∈ rest.head?, c.isDigit = false) :
    readWhole (whole ++ rest) = .ok (whole, rest) := by
  unfold readWhole
  split
  · next c more heq =>
    -- a zero that is followed by something is the whole number, and that is no digit
    obtain ⟨whole', rfl⟩ : ∃ whole', whole = '0' :: whole' := by
      cases whole with
      | nil => exact absurd rfl hw.1
      | cons x whole' => exact ⟨whole', by rw [(List.cons.inj heq).1]⟩
    have hnil : whole' = [] := by
      by_contra hmore
      exact hp ⟨whole', hmore, rfl⟩
    subst hnil
    obtain rfl : rest = c :: more := (List.cons.inj heq).2
    rw [if_neg (by rw [hr c rfl]; exact Bool.false_ne_true)]
  · exact readDigits_append hw hr

theorem FractionSpelling.read {fraction : Option (List Char)} {fs rest : List Char}
    (h : FractionSpelling fraction fs) (hr : ∀ c ∈ rest.head?, c.isDigit = false ∧ c ≠ '.') :
    readFraction (fs ++ rest) = .ok (fraction, rest) := by
  cases h with
  | none =>
    rw [List.nil_append]
    unfold readFraction
    split
    · exact absurd rfl (hr '.' rfl).2
    · rfl
  | some hd =>
    simp only [List.cons_append, readFraction]
    rw [readDigits_append hd fun c hc => (hr c hc).1]
    rfl

theorem ExponentSpelling.read {exponent : Option (Bool × List Char)} {es rest : List Char}
    (h : ExponentSpelling exponent es) (hr : Delimited rest) :
    readExponent (es ++ rest) = .ok (exponent, rest) := by
  have hdigits : ∀ c ∈ rest.head?, c.isDigit = false := fun c hc => (hr c hc).1
  cases h with
  | none =>
    cases rest with
    | nil => rfl
    | cons c rest =>
      obtain ⟨-, -, he, hE⟩ := hr c rfl
      simp [readExponent, he, hE]
  | @plain e ds he hd =>
    obtain ⟨x, ds', rfl⟩ := List.exists_cons_of_ne_nil hd.1
    have hx := hd.2 x List.mem_cons_self
    have hread := readDigits_append hd hdigits
    unfold readExponent
    simp only [List.cons_append, if_pos he] at hread ⊢
    split
    · next heq => exact absurd (List.cons.inj heq).1 (ne_of_isDigit hx rfl)
    · next heq => exact absurd (List.cons.inj heq).1 (ne_of_isDigit hx rfl)
    · rw [hread]
      rfl
  | plus he hd =>
    have hread := readDigits_append hd hdigits
    simp only [List.cons_append, readExponent, if_pos he, hread]
    rfl
  | minus he hd =>
    have hread := readDigits_append hd hdigits
    simp only [List.cons_append, readExponent, if_pos he, hread]
    rfl

/-- What comes after a point or after a number without a point cannot be taken for a digit. -/
theorem ExponentSpelling.follows {exponent : Option (Bool × List Char)} {es rest : List Char}
    (h : ExponentSpelling exponent es) (hr : Delimited rest) :
    ∀ c ∈ (es ++ rest).head?, c.isDigit = false ∧ c ≠ '.' := by
  cases h with
  | none => exact fun c hc => ⟨(hr c hc).1, (hr c hc).2.1⟩
  | plain he hd | plus he hd | minus he hd =>
    rintro c ⟨rfl⟩
    rcases he with rfl | rfl <;> decide

theorem FractionSpelling.follows {fraction : Option (List Char)} {fs rest : List Char}
    (h : FractionSpelling fraction fs) (hr : ∀ c ∈ rest.head?, c.isDigit = false) :
    ∀ c ∈ (fs ++ rest).head?, c.isDigit = false := by
  cases h with
  | none => exact hr
  | some hd =>
    rintro c ⟨rfl⟩
    rfl

theorem readUnsigned_append {whole fs es rest : List Char} {fraction : Option (List Char)}
    {exponent : Option (Bool × List Char)} (hw : Digits whole) (hp : ¬ Decimal.Padded whole)
    (hf : FractionSpelling fraction fs) (he : ExponentSpelling exponent es)
    (hr : Delimited rest) (negative : Bool) :
    readUnsigned negative (whole ++ (fs ++ es) ++ rest)
      = .ok (⟨negative, whole, fraction, exponent⟩, rest) := by
  have hexponent := he.follows hr
  have hfraction := hf.follows fun c hc => (hexponent c hc).1
  rw [List.append_assoc, List.append_assoc, readUnsigned, readWhole_append hw hp hfraction]
  simp only [bind, Except.bind]
  rw [hf.read hexponent]
  simp only
  rw [he.read hr]
  rfl

theorem NumeralSpelling.read {n : Numeral} {cs rest : List Char} (h : NumeralSpelling n cs)
    (hr : Delimited rest) : readNumber (cs ++ rest) = (number n, some rest) := by
  cases h with
  | @positive whole fs es fraction exponent hw hp hf he =>
    have hread := readUnsigned_append hw hp hf he hr false
    obtain ⟨c, whole', rfl⟩ := List.exists_cons_of_ne_nil hw.1
    have hc : c ≠ '-' := ne_of_isDigit (hw.2 c List.mem_cons_self) rfl
    unfold readNumber
    split
    · next heq => exact absurd (List.cons.inj heq).1 hc
    · rw [hread]
  | negative hw hp hf he =>
    have hread := readUnsigned_append hw hp hf he hr true
    simp only [List.cons_append, readNumber, hread]

/-! ### Values -/

theorem readValue_skipBlank (fuel : Nat) (cs : List Char) :
    readValue fuel (skipBlank cs) = readValue fuel cs := by
  cases fuel with
  | zero => rfl
  | succ fuel => rw [readValue, readValue, skipBlank_skipBlank]

theorem readItems_skipBlank (fuel : Nat) (cs : List Char) :
    readItems fuel (skipBlank cs) = readItems fuel cs := by
  cases fuel with
  | zero => rfl
  | succ fuel => rw [readItems, readItems, readValue_skipBlank]

theorem readMembers_skipBlank (fuel : Nat) (cs : List Char) :
    readMembers fuel (skipBlank cs) = readMembers fuel cs := by
  cases fuel with
  | zero => rfl
  | succ fuel => rw [readMembers, readMembers, skipBlank_skipBlank]

theorem Spelling.opens_item {d : Draft} {cs : List Char} (h : Spelling (.item d) cs)
    (rest : List Char) : ∃ c more, skipBlank (cs ++ rest) = c :: more ∧ c ≠ ']' := by
  cases h with
  | @item d b cs a hb h ha =>
    obtain ⟨c, tail, rfl, hblank, hclose⟩ := h.head
    refine ⟨c, tail ++ (a ++ rest), ?_, hclose⟩
    rw [List.append_assoc, skipBlank_append hb, List.append_assoc, List.cons_append,
      skipBlank_cons hblank]

theorem Spelling.opens_items {ds : List Draft} {cs : List Char} (h : Spelling (.items ds) cs)
    (rest : List Char) : ∃ c more, skipBlank (cs ++ rest) = c :: more ∧ c ≠ ']' := by
  cases h with
  | lastItem h =>
    rw [List.append_assoc]
    exact h.opens_item _
  | items h hs =>
    rw [List.append_assoc]
    exact h.opens_item _

theorem Spelling.opens_member {m : Quoted × Draft} {cs : List Char}
    (h : Spelling (.member m) cs) (rest : List Char) :
    ∃ more, skipBlank (cs ++ rest) = '"' :: more := by
  cases h with
  | member hb hk ha h =>
    rw [List.append_assoc, skipBlank_append hb, List.cons_append, skipBlank_cons (by decide)]
    exact ⟨_, rfl⟩

theorem Spelling.opens_members {ms : List (Quoted × Draft)} {cs : List Char}
    (h : Spelling (.members ms) cs) (rest : List Char) :
    ∃ more, skipBlank (cs ++ rest) = '"' :: more := by
  cases h with
  | lastMember h =>
    rw [List.append_assoc]
    exact h.opens_member _
  | members h hs =>
    rw [List.append_assoc]
    exact h.opens_member _

/-! ### One step of the reader -/

theorem readValue_string {fuel : Nat} {cs rest : List Char} {q : Quoted}
    (h : readPieces fuel cs = (q, some rest)) :
    readValue (fuel + 1) ('"' :: cs) = (string q, some rest) := by
  rw [readValue, skipBlank_cons (by decide)]
  simp only [if_true, h]

theorem readValue_number {c : Char} (hc : c = '-' ∨ c.isDigit = true) (fuel : Nat)
    (cs : List Char) : readValue (fuel + 1) (c :: cs) = readNumber (c :: cs) := by
  have hother : isBlank c = false ∧ c ≠ '"' ∧ c ≠ '[' ∧ c ≠ '\x7b' ∧ c ≠ 'n' ∧ c ≠ 't' ∧
      c ≠ 'f' := by
    rcases hc with rfl | hc
    · decide
    · exact ⟨isBlank_of_isDigit hc, ne_of_isDigit hc rfl, ne_of_isDigit hc rfl,
        ne_of_isDigit hc rfl, ne_of_isDigit hc rfl, ne_of_isDigit hc rfl, ne_of_isDigit hc rfl⟩
  obtain ⟨hblank, hquote, harray, hobject, hn, ht, hf⟩ := hother
  rw [readValue, skipBlank_cons hblank]
  simp only [hquote, harray, hobject, hn, ht, hf, hc, if_false, if_true]

theorem readValue_emptyArray {b : List Char} (hb : Blank b) (fuel : Nat) (rest : List Char) :
    readValue (fuel + 1) ('[' :: (b ++ ']' :: rest)) = (array [] none, some rest) := by
  rw [readValue, skipBlank_cons (by decide)]
  simp only [Char.reduceEq, if_false, if_true, skipBlank_append hb]
  rw [skipBlank_cons (by decide)]
  rfl

theorem readValue_array {fuel : Nat} {cs rest more : List Char} {ds : List Draft} {c : Char}
    (hopen : skipBlank cs = c :: more) (hclose : c ≠ ']')
    (h : readItems fuel cs = ((ds, none), some rest)) :
    readValue (fuel + 1) ('[' :: cs) = (array ds none, some rest) := by
  rw [← readItems_skipBlank, hopen] at h
  rw [readValue, skipBlank_cons (by decide)]
  simp only [Char.reduceEq, if_false, if_true, hopen]
  split
  · next heq => cases heq
  · next heq => exact absurd (List.cons.inj heq).1 hclose
  · rw [h]

theorem readValue_emptyObject {b : List Char} (hb : Blank b) (fuel : Nat) (rest : List Char) :
    readValue (fuel + 1) ('\x7b' :: (b ++ '\x7d' :: rest)) = (object [] none, some rest) := by
  rw [readValue, skipBlank_cons (by decide)]
  simp only [Char.reduceEq, if_false, if_true, skipBlank_append hb]
  rw [skipBlank_cons (by decide)]
  rfl

theorem readValue_object {fuel : Nat} {cs rest more : List Char} {ms : List (Quoted × Draft)}
    (hopen : skipBlank cs = '"' :: more) (h : readMembers fuel cs = ((ms, none), some rest)) :
    readValue (fuel + 1) ('\x7b' :: cs) = (object ms none, some rest) := by
  rw [← readMembers_skipBlank, hopen] at h
  rw [readValue, skipBlank_cons (by decide)]
  simp only [Char.reduceEq, if_false, if_true, hopen]
  split
  · next heq => cases heq
  · next heq => exact absurd (List.cons.inj heq).1 (by decide)
  · rw [h]

theorem readItems_last {fuel : Nat} {cs a rest : List Char} {d : Draft} (ha : Blank a)
    (h : readValue fuel cs = (d, some (a ++ ']' :: rest))) :
    readItems (fuel + 1) cs = (([d], none), some rest) := by
  rw [readItems, h]
  simp only
  rw [skipBlank_append ha, skipBlank_cons (by decide)]
  rfl

theorem readItems_more {fuel : Nat} {cs a rest : List Char} {d : Draft} {ds : List Draft}
    {left : Option (List Char)} (ha : Blank a)
    (h : readValue fuel cs = (d, some (a ++ ',' :: rest)))
    (hs : readItems fuel rest = ((ds, none), left)) :
    readItems (fuel + 1) cs = ((d :: ds, none), left) := by
  rw [readItems, h]
  simp only
  rw [skipBlank_append ha, skipBlank_cons (by decide)]
  simp only [Char.reduceEq, if_false, if_true, hs]

section Member

variable {fuel : Nat} {b k a cs a' rest : List Char} {key : Quoted} {d : Draft}
  (hb : Blank b) (hk : readPieces fuel k = (key, some (a ++ ':' :: cs))) (ha : Blank a)
  (ha' : Blank a')

include hb hk ha ha'

theorem readMembers_last (h : readValue fuel cs = (d, some (a' ++ '\x7d' :: rest))) :
    readMembers (fuel + 1) (b ++ '"' :: k) = (([(key, d)], none), some rest) := by
  rw [readMembers, skipBlank_append hb, skipBlank_cons (by decide)]
  simp only [if_true, hk, Option.map_some, skipBlank_append ha]
  rw [skipBlank_cons (by decide)]
  simp only [if_true, h, Option.map_some, skipBlank_append ha']
  rw [skipBlank_cons (by decide)]
  rfl

theorem readMembers_more {ms : List (Quoted × Draft)} {left : Option (List Char)}
    (h : readValue fuel cs = (d, some (a' ++ ',' :: rest)))
    (hs : readMembers fuel rest = ((ms, none), left)) :
    readMembers (fuel + 1) (b ++ '"' :: k) = (((key, d) :: ms, none), left) := by
  rw [readMembers, skipBlank_append hb, skipBlank_cons (by decide)]
  simp only [if_true, hk, Option.map_some, skipBlank_append ha]
  rw [skipBlank_cons (by decide)]
  simp only [if_true, h, Option.map_some, skipBlank_append ha']
  rw [skipBlank_cons (by decide)]
  simp only [Char.reduceEq, if_false, if_true, hs]

end Member

/-! ### All parts of a text -/

/-- Each function of the reader takes a part off the front of a text. After a member comes the end
of the object, or a comma and the other members. -/
def Part.Read : Part → List Char → Prop
  | .value d, cs => ∀ fuel rest, 2 * cs.length ≤ fuel → Delimited rest →
    readValue fuel (cs ++ rest) = (d, some rest)
  | .item d, cs => ∀ fuel rest, 2 * cs.length ≤ fuel → Delimited rest →
    ∃ a, Blank a ∧ readValue fuel (cs ++ rest) = (d, some (a ++ rest))
  | .items ds, cs => ∀ fuel rest, 2 * cs.length < fuel →
    readItems fuel (cs ++ rest) = ((ds, none), some rest)
  | .member m, cs => ∀ fuel rest, 2 * cs.length ≤ fuel →
    readMembers (fuel + 1) (cs ++ '\x7d' :: rest) = (([m], none), some rest) ∧
      ∀ ms left, readMembers fuel rest = ((ms, none), left) →
        readMembers (fuel + 1) (cs ++ ',' :: rest) = ((m :: ms, none), left)
  | .members ms, cs => ∀ fuel rest, 2 * cs.length < fuel →
    readMembers fuel (cs ++ rest) = ((ms, none), some rest)

theorem delimited_of_end {c : Char} (hc : c = ',' ∨ c = ']' ∨ c = '\x7d') (rest : List Char) :
    Delimited (c :: rest) := by
  rintro x ⟨rfl⟩
  rcases hc with rfl | rfl | rfl <;> decide

/-- A value takes a character at least, and so one unit of fuel. -/
theorem exists_fuel {c : Char} {cs : List Char} {fuel : Nat} (h : 2 * (c :: cs).length ≤ fuel) :
    ∃ k, fuel = k + 1 ∧ 2 * cs.length < k := by
  rw [List.length_cons] at h
  exact ⟨fuel - 1, by omega, by omega⟩

/-- **The reader finds what a text spells.** -/
theorem Spelling.read {p : Part} {cs : List Char} (h : Spelling p cs) : p.Read cs := by
  induction h with
  | null | boolTrue | boolFalse =>
    intro fuel rest hfuel hr
    obtain ⟨fuel, rfl, -⟩ := exists_fuel hfuel
    rfl
  | number h =>
    intro fuel rest hfuel hr
    have hread := h.read hr
    obtain ⟨c, more, rfl, hc⟩ := h.head
    obtain ⟨fuel, rfl, -⟩ := exists_fuel hfuel
    rw [← hread]
    exact readValue_number hc fuel (more ++ rest)
  | string h =>
    intro fuel rest hfuel hr
    obtain ⟨fuel, rfl, hlt⟩ := exists_fuel hfuel
    exact readValue_string (h.read (by omega) rest)
  | @emptyArray b hb =>
    intro fuel rest hfuel hr
    obtain ⟨fuel, rfl, -⟩ := exists_fuel hfuel
    rw [List.cons_append, List.append_assoc]
    exact readValue_emptyArray hb fuel rest
  | array h ih =>
    intro fuel rest hfuel hr
    obtain ⟨fuel, rfl, hlt⟩ := exists_fuel hfuel
    obtain ⟨c, more, hopen, hclose⟩ := h.opens_items rest
    exact readValue_array hopen hclose (ih fuel rest hlt)
  | @emptyObject b hb =>
    intro fuel rest hfuel hr
    obtain ⟨fuel, rfl, -⟩ := exists_fuel hfuel
    rw [List.cons_append, List.append_assoc]
    exact readValue_emptyObject hb fuel rest
  | object h ih =>
    intro fuel rest hfuel hr
    obtain ⟨fuel, rfl, hlt⟩ := exists_fuel hfuel
    obtain ⟨more, hopen⟩ := h.opens_members rest
    exact readValue_object hopen (ih fuel rest hlt)
  | @item d b cs a hb h ha ih =>
    intro fuel rest hfuel hr
    rw [List.length_append, List.length_append] at hfuel
    refine ⟨a, ha, ?_⟩
    rw [List.append_assoc, ← readValue_skipBlank, skipBlank_append hb, readValue_skipBlank,
      List.append_assoc]
    exact ih fuel (a ++ rest) (by omega) (ha.delimited hr)
  | @lastItem d cs h ih =>
    intro fuel rest hfuel
    rw [List.length_append] at hfuel
    obtain ⟨fuel, rfl⟩ : ∃ k, fuel = k + 1 := ⟨fuel - 1, by omega⟩
    obtain ⟨a, ha, hread⟩ := ih fuel (']' :: rest) (by omega) (delimited_of_end (by decide) rest)
    rw [List.append_assoc]
    exact readItems_last ha hread
  | @items d ds cs more h hs ih ihs =>
    intro fuel rest hfuel
    rw [List.length_append, List.length_cons] at hfuel
    obtain ⟨fuel, rfl⟩ : ∃ k, fuel = k + 1 := ⟨fuel - 1, by omega⟩
    obtain ⟨a, ha, hread⟩ := ih fuel (',' :: (more ++ rest)) (by omega)
      (delimited_of_end (by decide) _)
    rw [List.append_assoc]
    exact readItems_more ha hread (ihs fuel rest (by omega))
  | @member ps d b ks a cs hb hk ha h ih =>
    intro fuel rest hfuel
    simp only [List.length_append, List.length_cons] at hfuel
    have hkey : ∀ more, readPieces fuel (ks ++ (a ++ ':' :: more))
        = (⟨ps, none⟩, some (a ++ ':' :: more)) := fun more => hk.read (by omega) _
    have hvalue : ∀ c, c = ',' ∨ c = ']' ∨ c = '\x7d' → ∃ a, Blank a ∧
        readValue fuel (cs ++ c :: rest) = (d, some (a ++ c :: rest)) := fun c hc =>
      ih fuel (c :: rest) (by omega) (delimited_of_end hc rest)
    simp only [List.append_assoc, List.cons_append]
    constructor
    · obtain ⟨a', ha', hread⟩ := hvalue '\x7d' (by decide)
      exact readMembers_last hb (hkey _) ha ha' hread
    · intro ms left hmore
      obtain ⟨a', ha', hread⟩ := hvalue ',' (by decide)
      exact readMembers_more hb (hkey _) ha ha' hread hmore
  | @lastMember m cs h ih =>
    intro fuel rest hfuel
    rw [List.length_append] at hfuel
    obtain ⟨fuel, rfl⟩ : ∃ k, fuel = k + 1 := ⟨fuel - 1, by omega⟩
    rw [List.append_assoc]
    exact (ih fuel rest (by omega)).1
  | @members m ms cs more h hs ih ihs =>
    intro fuel rest hfuel
    rw [List.length_append, List.length_cons] at hfuel
    obtain ⟨fuel, rfl⟩ : ∃ k, fuel = k + 1 := ⟨fuel - 1, by omega⟩
    have hmore := ihs fuel rest (by omega)
    rw [List.append_assoc]
    exact (ih fuel (more ++ rest) (by omega)).2 ms (some rest) hmore

/-- The draft that a text spells is what is read of it. -/
theorem IsText.ofText {d : Draft} {s : String} (h : IsText d s) :
    ∃ a, ofText s.toList = (d, some a) ∧ Blank a := by
  obtain ⟨a, ha, htext⟩ := h.read (2 * s.toList.length + 2) [] (by omega) (fun c hc => by cases hc)
  rw [List.append_nil, List.append_nil] at htext
  exact ⟨a, htext, ha⟩

/-- A text spells one draft only. -/
theorem IsText.unique {d d' : Draft} {s : String} (h : IsText d s) (h' : IsText d' s) : d = d' := by
  obtain ⟨a, htext, -⟩ := h.ofText
  obtain ⟨a', htext', -⟩ := h'.ofText
  exact congrArg Prod.fst (htext.symm.trans htext')

theorem decode_eq {α : Type} {d : Draft} {s : String} (h : IsText d s)
    (read : Draft → Except DecodeError α) : decode read s = read d := by
  obtain ⟨a, htext, ha⟩ := h.ofText
  have hblank : (skipBlank a).isEmpty = true := by
    rw [← List.append_nil a, skipBlank_append ha]
    rfl
  rw [decode, htext]
  simp only [Option.any_some, hblank, if_true]
  cases read d <;> rfl

end LongPoll.Draft
