/-
# What the reader takes for JSON

The reader tells a text from what is none: whenever it gets to the end of a part, what it has taken
off the front of the text is a text of that part (`spelled`, by induction on the fuel, since each
step of the reader goes on with less of it). With `Spelling.read` it follows that the reader and the
grammar have the same texts, and that a text decodes exactly if it is the text of a draft that does
(`decode_eq_ok_iff`).

Key definition: `Draft.Spelled`.
Key theorems: `Draft.readPieces_some`, `Draft.readNumber_some`, `Draft.spelled`,
`Draft.isText_iff`, `Draft.decode_eq_ok_iff`.
-/
import LongPoll.Proofs.Reading

namespace LongPoll.Draft

variable {cs rest : List Char}

theorem bind_eq_ok_iff {ε α β : Type} {x : Except ε α} {f : α → Except ε β} {b : β} :
    (x >>= f) = .ok b ↔ ∃ a, x = .ok a ∧ f a = .ok b := by
  cases x <;> simp [bind, Except.bind]

theorem exists_blank (cs : List Char) : ∃ b, Blank b ∧ cs = b ++ skipBlank cs :=
  ⟨cs.takeWhile isBlank, fun _ hc => List.mem_takeWhile_imp hc,
    (List.takeWhile_append_dropWhile).symm⟩

/-! ### Strings -/

theorem readEscape_ok {p : Piece} (h : readEscape cs = .ok (p, rest)) :
    ∃ e, PieceSpelling p ('\\' :: e) ∧ cs = e ++ rest := by
  unfold readEscape at h
  split at h
  · cases h
  · split at h
    · next a b c d more =>
      cases hu : hexUnit? a b c d with
      | none => simp [hu] at h
      | some u =>
        simp only [hu, Except.ok.injEq, Prod.mk.injEq] at h
        obtain ⟨rfl, rfl⟩ := h
        exact ⟨['u', a, b, c, d], .unit hu, rfl⟩
    · cases h
  · next c cs hc =>
    have hshort : ∃ x, p = .char x ∧ cs = rest ∧ (c, x) ∈ shortEscapes := by
      split at h
      case h_9 => cases h
      all_goals
        cases h
        exact ⟨_, rfl, rfl, by decide⟩
    obtain ⟨x, rfl, rfl, hx⟩ := hshort
    exact ⟨[c], .short hx, rfl⟩

theorem readPieces_some {fuel : Nat} {q : Quoted} (h : readPieces fuel cs = (q, some rest)) :
    ∃ ps pre, q = ⟨ps, none⟩ ∧ StringSpelling ps pre ∧ cs = pre ++ rest := by
  induction fuel generalizing cs q with
  | zero => cases cs <;> cases h
  | succ fuel ih =>
    cases cs with
    | nil => cases h
    | cons c cs =>
      -- what is read after a piece, with the piece in front
      have hafter : ∀ {p : Piece} {pre cs : List Char}, PieceSpelling p pre →
          (Quoted.mk (p :: (readPieces fuel cs).1.pieces) (readPieces fuel cs).1.stop,
            (readPieces fuel cs).2) = (q, some rest) →
          ∃ ps more, q = ⟨ps, none⟩ ∧ StringSpelling ps more ∧ pre ++ cs = more ++ rest := by
        intro p pre cs hp hq
        obtain ⟨rfl, hrest⟩ := Prod.mk.inj hq
        obtain ⟨ps, more, hq, hmore, rfl⟩ := ih (Prod.ext rfl hrest)
        exact ⟨p :: ps, pre ++ more, congrArg (fun q => Quoted.mk (p :: q.pieces) q.stop) hq,
          .piece hp hmore, (List.append_assoc _ _ _).symm⟩
      rw [readPieces] at h
      split at h
      · next hquote =>
        subst hquote
        cases h
        exact ⟨[], ['"'], rfl, .close, rfl⟩
      · next hquote =>
        split at h
        · next hescape =>
          subst hescape
          split at h
          · next p more hp =>
            obtain ⟨e, he, rfl⟩ := readEscape_ok hp
            exact hafter he h
          · cases h
        · next hescape =>
          split at h
          · cases h
          · next hcontrol => exact hafter (.plain hquote hescape (Nat.not_lt.mp hcontrol)) h

/-! ### Numbers -/

theorem readDigits_ok {ds : List Char} (h : readDigits cs = .ok (ds, rest)) :
    Digits ds ∧ cs = ds ++ rest := by
  unfold readDigits at h
  split at h
  · cases h
  · next c more =>
    split at h
    · next hc =>
      obtain ⟨rfl, rfl⟩ := Prod.mk.inj (Except.ok.inj h)
      refine ⟨⟨?_, fun x hx => List.mem_takeWhile_imp hx⟩, List.takeWhile_append_dropWhile.symm⟩
      rw [List.takeWhile_cons_of_pos hc]
      exact List.cons_ne_nil _ _
    · cases h

theorem map_readDigits_ok {α : Type} {f : List Char × List Char → α × List Char} {a : α}
    (h : (readDigits cs).map f = .ok (a, rest)) :
    ∃ ds left, f (ds, left) = (a, rest) ∧ Digits ds ∧ cs = ds ++ left := by
  cases hd : readDigits cs with
  | error b => simp [hd, Except.map] at h
  | ok read =>
    obtain ⟨ds, left⟩ := read
    rw [hd] at h
    exact ⟨ds, left, Except.ok.inj h, readDigits_ok hd⟩

theorem readWhole_ok {whole : List Char} (h : readWhole cs = .ok (whole, rest)) :
    Digits whole ∧ ¬ Decimal.Padded whole ∧ cs = whole ++ rest := by
  unfold readWhole at h
  split at h
  · next c more =>
    split at h
    · cases h
    · cases h
      refine ⟨⟨List.cons_ne_nil _ _, List.forall_mem_singleton.mpr rfl⟩, ?_, rfl⟩
      rintro ⟨tail, hne, htail⟩
      exact hne (List.cons.inj htail).2.symm
  · next hzero =>
    obtain ⟨hdigits, rfl⟩ := readDigits_ok h
    refine ⟨hdigits, ?_, rfl⟩
    rintro ⟨tail, hne, rfl⟩
    obtain ⟨c, tail, rfl⟩ := List.exists_cons_of_ne_nil hne
    exact hzero c (tail ++ rest) rfl

theorem readFraction_ok {fraction : Option (List Char)}
    (h : readFraction cs = .ok (fraction, rest)) :
    ∃ fs, FractionSpelling fraction fs ∧ cs = fs ++ rest := by
  unfold readFraction at h
  split at h
  · obtain ⟨ds, left, heq, hdigits, rfl⟩ := map_readDigits_ok h
    cases heq
    exact ⟨'.' :: ds, .some hdigits, rfl⟩
  · cases h
    exact ⟨[], .none, rfl⟩

theorem readExponent_ok {exponent : Option (Bool × List Char)}
    (h : readExponent cs = .ok (exponent, rest)) :
    ∃ es, ExponentSpelling exponent es ∧ cs = es ++ rest := by
  unfold readExponent at h
  split at h
  · next e more =>
    split at h
    · next he =>
      split at h <;>
        obtain ⟨ds, left, heq, hdigits, rfl⟩ := map_readDigits_ok h <;> cases heq
      · exact ⟨e :: '-' :: ds, .minus he hdigits, rfl⟩
      · exact ⟨e :: '+' :: ds, .plus he hdigits, rfl⟩
      · exact ⟨e :: ds, .plain he hdigits, rfl⟩
    · cases h
      exact ⟨[], .none, rfl⟩
  · cases h
    exact ⟨[], .none, rfl⟩

theorem readUnsigned_ok {negative : Bool} {n : Numeral}
    (h : readUnsigned negative cs = .ok (n, rest)) :
    ∃ whole fs es fraction exponent, n = ⟨negative, whole, fraction, exponent⟩ ∧ Digits whole ∧
      ¬ Decimal.Padded whole ∧ FractionSpelling fraction fs ∧ ExponentSpelling exponent es ∧
      cs = whole ++ (fs ++ es) ++ rest := by
  unfold readUnsigned at h
  obtain ⟨⟨whole, left⟩, hwhole, h⟩ := bind_eq_ok_iff.mp h
  obtain ⟨⟨fraction, left⟩, hfraction, h⟩ := bind_eq_ok_iff.mp h
  obtain ⟨⟨exponent, left⟩, hexponent, h⟩ := bind_eq_ok_iff.mp h
  cases h
  obtain ⟨hw, hp, rfl⟩ := readWhole_ok hwhole
  obtain ⟨fs, hf, rfl⟩ := readFraction_ok hfraction
  obtain ⟨es, he, rfl⟩ := readExponent_ok hexponent
  exact ⟨whole, fs, es, fraction, exponent, rfl, hw, hp, hf, he, by simp⟩

theorem readNumber_some {d : Draft} (h : readNumber cs = (d, some rest)) :
    ∃ n pre, d = number n ∧ NumeralSpelling n pre ∧ cs = pre ++ rest := by
  unfold readNumber at h
  simp only at h
  split at h
  · next n left hn =>
    cases h
    split at hn
    · obtain ⟨whole, fs, es, fraction, exponent, rfl, hw, hp, hf, he, rfl⟩ := readUnsigned_ok hn
      exact ⟨_, _, rfl, .negative hw hp hf he, rfl⟩
    · obtain ⟨whole, fs, es, fraction, exponent, rfl, hw, hp, hf, he, rfl⟩ := readUnsigned_ok hn
      exact ⟨_, _, rfl, .positive hw hp hf he, rfl⟩
  · cases h

/-! ### Words -/

theorem readWord_some {value d : Draft} {ws : List Char}
    (h : readWord value ws cs = (d, some rest)) : d = value ∧ cs = ws ++ rest := by
  induction ws generalizing cs with
  | nil =>
    cases h
    exact ⟨rfl, rfl⟩
  | cons w ws ih =>
    cases cs with
    | nil => cases h
    | cons c cs =>
      rw [readWord] at h
      split at h
      · next hc =>
        obtain ⟨rfl, rfl⟩ := ih h
        exact ⟨rfl, by rw [hc]; rfl⟩
      · cases h

/-! ### Values -/

/-- With this much fuel, what the reader takes for a part of a text is one. A value may have blanks
in front of it. -/
structure Spelled (fuel : Nat) : Prop where
  value : ∀ cs rest d, readValue fuel cs = (d, some rest) →
    ∃ b pre, Blank b ∧ Spelling (.value d) pre ∧ cs = b ++ (pre ++ rest)
  items : ∀ cs rest ds stop, readItems fuel cs = ((ds, stop), some rest) →
    stop = none ∧ ∃ pre, Spelling (.items ds) pre ∧ cs = pre ++ rest
  members : ∀ cs rest ms stop, readMembers fuel cs = ((ms, stop), some rest) →
    stop = none ∧ ∃ pre, Spelling (.members ms) pre ∧ cs = pre ++ rest

theorem Spelled.item {fuel : Nat} (hspelled : Spelled fuel) {d : Draft}
    (h : readValue fuel cs = (d, some rest)) :
    ∃ pre, Spelling (.item d) pre ∧ cs = pre ++ skipBlank rest := by
  obtain ⟨b, pre, hb, hpre, rfl⟩ := hspelled.value cs rest d h
  obtain ⟨a, ha, hrest⟩ := exists_blank rest
  have hcs : b ++ (pre ++ rest) = b ++ (pre ++ a) ++ skipBlank rest := by
    rw [List.append_assoc, List.append_assoc, ← hrest]
  exact ⟨b ++ (pre ++ a), .item hb hpre ha, hcs⟩

/-! ### One step of the reader -/

section Step

variable {fuel : Nat} {d : Draft}

theorem readValue_quote (h : readValue (fuel + 1) ('"' :: cs) = (d, some rest)) :
    ∃ pre, Spelling (.value d) pre ∧ '"' :: cs = pre ++ rest := by
  rw [readValue, skipBlank_cons (by decide)] at h
  rcases hq : readPieces fuel cs with ⟨q, left⟩
  simp only [if_true, hq] at h
  cases h
  obtain ⟨ps, pre, rfl, hps, rfl⟩ := readPieces_some hq
  exact ⟨'"' :: pre, .string hps, rfl⟩

variable (ih : Spelled fuel)

include ih

theorem readValue_bracket (h : readValue (fuel + 1) ('[' :: cs) = (d, some rest)) :
    ∃ pre, Spelling (.value d) pre ∧ '[' :: cs = pre ++ rest := by
  rw [readValue, skipBlank_cons (by decide)] at h
  simp only [Char.reduceEq, if_false, if_true] at h
  obtain ⟨b, hb, hcs⟩ := exists_blank cs
  split at h
  · cases h
  · next heq =>
    cases h
    rw [heq] at hcs
    exact ⟨'[' :: (b ++ [']']), .emptyArray hb, by rw [hcs]; simp⟩
  · rw [readItems_skipBlank] at h
    rcases hitems : readItems fuel cs with ⟨⟨ds, stop⟩, left⟩
    rw [hitems] at h
    cases h
    obtain ⟨rfl, pre, hpre, rfl⟩ := ih.items cs rest ds stop hitems
    exact ⟨'[' :: pre, .array hpre, rfl⟩

theorem readValue_brace (h : readValue (fuel + 1) ('\x7b' :: cs) = (d, some rest)) :
    ∃ pre, Spelling (.value d) pre ∧ '\x7b' :: cs = pre ++ rest := by
  rw [readValue, skipBlank_cons (by decide)] at h
  simp only [Char.reduceEq, if_false, if_true] at h
  obtain ⟨b, hb, hcs⟩ := exists_blank cs
  split at h
  · cases h
  · next heq =>
    cases h
    rw [heq] at hcs
    exact ⟨'\x7b' :: (b ++ ['\x7d']), .emptyObject hb, by rw [hcs]; simp⟩
  · rw [readMembers_skipBlank] at h
    rcases hmembers : readMembers fuel cs with ⟨⟨ms, stop⟩, left⟩
    rw [hmembers] at h
    cases h
    obtain ⟨rfl, pre, hpre, rfl⟩ := ih.members cs rest ms stop hmembers
    exact ⟨'\x7b' :: pre, .object hpre, rfl⟩

theorem readValue_some (h : readValue (fuel + 1) cs = (d, some rest)) :
    ∃ b pre, Blank b ∧ Spelling (.value d) pre ∧ cs = b ++ (pre ++ rest) := by
  obtain ⟨b, hb, hcs⟩ := exists_blank cs
  have hvalue : ∃ pre, Spelling (.value d) pre ∧ skipBlank cs = pre ++ rest := by
    rw [← readValue_skipBlank] at h
    cases htext : skipBlank cs with
    | nil =>
      rw [htext] at h
      cases h
    | cons c more =>
      have hblank : isBlank c = false := by
        have hhead := List.head?_dropWhile_not isBlank cs
        rw [show cs.dropWhile isBlank = c :: more from htext] at hhead
        exact hhead
      rw [htext] at h
      by_cases hquote : c = '"'
      · exact hquote ▸ readValue_quote (hquote ▸ h)
      by_cases hbracket : c = '['
      · exact hbracket ▸ readValue_bracket ih (hbracket ▸ h)
      by_cases hbrace : c = '\x7b'
      · exact hbrace ▸ readValue_brace ih (hbrace ▸ h)
      rw [readValue, skipBlank_cons hblank] at h
      simp only [hquote, hbracket, hbrace, if_false] at h
      split at h
      · next hn =>
        obtain ⟨rfl, rfl⟩ := readWord_some h
        exact ⟨_, .null, by rw [hn]; rfl⟩
      split at h
      · next ht =>
        obtain ⟨rfl, rfl⟩ := readWord_some h
        exact ⟨_, .boolTrue, by rw [ht]; rfl⟩
      split at h
      · next hf =>
        obtain ⟨rfl, rfl⟩ := readWord_some h
        exact ⟨_, .boolFalse, by rw [hf]; rfl⟩
      split at h
      · obtain ⟨n, pre, rfl, hn, hpre⟩ := readNumber_some h
        exact ⟨pre, .number hn, hpre⟩
      · cases h
  obtain ⟨pre, hpre, hrest⟩ := hvalue
  exact ⟨b, pre, hb, hpre, hcs.trans (congrArg (b ++ ·) hrest)⟩

theorem readItems_some {ds : List Draft} {stop : Option Break}
    (h : readItems (fuel + 1) cs = ((ds, stop), some rest)) :
    stop = none ∧ ∃ pre, Spelling (.items ds) pre ∧ cs = pre ++ rest := by
  rw [readItems] at h
  rcases hvalue : readValue fuel cs with ⟨d, _ | left⟩
  · simp only [hvalue] at h
    cases h
  obtain ⟨item, hitem, rfl⟩ := ih.item hvalue
  simp only [hvalue] at h
  split at h
  · cases h
  next c more heq =>
  by_cases hclose : c = ']'
  · rw [if_pos hclose] at h
    cases h
    exact ⟨rfl, item ++ [']'], .lastItem hitem, by rw [heq, hclose, List.append_assoc]; rfl⟩
  rw [if_neg hclose] at h
  by_cases hcomma : c = ','
  · rw [if_pos hcomma] at h
    rcases hitems : readItems fuel more with ⟨⟨ds, stop⟩, left⟩
    rw [hitems] at h
    cases h
    obtain ⟨rfl, tail, htail, rfl⟩ := ih.items more rest ds stop hitems
    exact ⟨rfl, item ++ ',' :: tail, .items hitem htail, by
      rw [heq, hcomma, List.append_assoc]; rfl⟩
  · rw [if_neg hcomma] at h
    cases h

theorem readMembers_some {ms : List (Quoted × Draft)} {stop : Option Break}
    (h : readMembers (fuel + 1) cs = ((ms, stop), some rest)) :
    stop = none ∧ ∃ pre, Spelling (.members ms) pre ∧ cs = pre ++ rest := by
  obtain ⟨b, hb, hcs⟩ := exists_blank cs
  rw [readMembers] at h
  split at h
  · cases h
  next c afterQuote heq =>
  by_cases hquote : c = '"'
  swap
  · rw [if_neg hquote] at h
    cases h
  rw [if_pos hquote] at h
  rcases hkey : readPieces fuel afterQuote with ⟨key, _ | afterKey⟩
  · simp [hkey] at h
  obtain ⟨ps, ks, rfl, hks, rfl⟩ := readPieces_some hkey
  obtain ⟨a, ha, hafterKey⟩ := exists_blank afterKey
  simp only [hkey, Option.map_some] at h
  split at h
  · cases h
  · cases h
  next c' afterColon heq' =>
  by_cases hcolon : c' = ':'
  swap
  · rw [if_neg hcolon] at h
    cases h
  rw [if_pos hcolon] at h
  rcases hvalue : readValue fuel afterColon with ⟨d, _ | afterValue⟩
  · simp only [hvalue, Option.map_none] at h
    cases h
  obtain ⟨item, hitem, rfl⟩ := ih.item hvalue
  have hmember : Spelling (.member (⟨ps, none⟩, d)) (b ++ '"' :: (ks ++ (a ++ ':' :: item))) :=
    .member hb hks ha hitem
  have htext : cs = b ++ '"' :: (ks ++ (a ++ ':' :: item)) ++ skipBlank afterValue := by
    rw [hcs, heq, hquote, hafterKey, Option.some.inj heq', hcolon]
    simp
  simp only [hvalue, Option.map_some] at h
  split at h
  · cases h
  · cases h
  next c'' more heq'' =>
  rw [Option.some.inj heq''] at htext
  by_cases hclose : c'' = '\x7d'
  · rw [if_pos hclose] at h
    cases h
    exact ⟨rfl, _, .lastMember hmember, by rw [htext, hclose, List.append_assoc _ ['\x7d']]; rfl⟩
  rw [if_neg hclose] at h
  by_cases hcomma : c'' = ','
  · rw [if_pos hcomma] at h
    rcases hmembers : readMembers fuel more with ⟨⟨ms, stop⟩, left⟩
    rw [hmembers] at h
    cases h
    obtain ⟨rfl, tail, htail, rfl⟩ := ih.members more rest ms stop hmembers
    exact ⟨rfl, _, .members hmember htail, by
      rw [htext, hcomma, List.append_assoc _ (',' :: tail)]; rfl⟩
  · rw [if_neg hcomma] at h
    cases h

end Step

theorem spelled (fuel : Nat) : Spelled fuel := by
  induction fuel with
  | zero =>
    refine ⟨fun cs rest d h => ?_, fun cs rest ds stop h => ?_, fun cs rest ms stop h => ?_⟩ <;>
      cases h
  | succ fuel ih =>
    exact ⟨fun _ _ _ h => readValue_some ih h, fun _ _ _ _ h => readItems_some ih h,
      fun _ _ _ _ h => readMembers_some ih h⟩

/-- **The reader and the grammar have the same texts.** -/
theorem isText_iff {d : Draft} {s : String} :
    IsText d s ↔ ∃ a, ofText s.toList = (d, some a) ∧ Blank a := by
  constructor
  · exact fun h => h.ofText
  · rintro ⟨a, htext, ha⟩
    obtain ⟨b, pre, hb, hpre, hs⟩ := (spelled _).value s.toList a d htext
    rw [IsText, hs]
    exact .item hb hpre ha

/-- **A text decodes exactly if it is the text of a draft that does.** -/
theorem decode_eq_ok_iff {α : Type} {read : Draft → Except DecodeError α} {s : String} {a : α} :
    decode read s = .ok a ↔ ∃ d, IsText d s ∧ read d = .ok a := by
  constructor
  · intro h
    unfold decode at h
    rcases htext : ofText s.toList with ⟨d, rest⟩
    simp only [htext] at h
    cases hd : read d with
    | error e => simp [hd] at h
    | ok b =>
      simp only [hd] at h
      split at h
      · next hrest =>
        cases h
        obtain ⟨a, rfl, hblank⟩ := (Option.any_eq_true _ _).mp hrest
        have ha : Blank a := List.dropWhile_eq_nil_iff.mp (List.isEmpty_iff.mp hblank)
        exact ⟨d, isText_iff.mpr ⟨a, htext, ha⟩, hd⟩
      · cases h
  · rintro ⟨d, hd, hread⟩
    rw [decode_eq hd, hread]

end LongPoll.Draft
