import LedgerQuery.Json.Read
import LedgerQuery.Proofs.Text.Blank

/-! How far reading JSON gets. What a reader leaves of a text is the end of the text, and where it
finds a number too long, the digits of the number stand side by side in the text. A document that is
one such number and nothing else is found so. -/

namespace LedgerQuery.Json
open Text

def HoldsDigits (text : List Char) (digitCount : Nat) : Prop :=
  ∃ digits, digits <:+: text ∧ (∀ c ∈ digits, isAsciiDigit c = true) ∧ digits.length = digitCount

def Stop.StandsIn (text : List Char) : Stop → Prop
  | .malformed _ _ => True
  | .numberTooLong digitCount => Decimal.digitLimit < digitCount ∧ HoldsDigits text digitCount

/-- Reading leaves the end of the text, or finds there what stops it. -/
def Within {α : Type} (text : List Char) : Except Stop (α × List Char) → Prop
  | .ok (_, rest) => rest <:+ text
  | .error stop => stop.StandsIn text

variable {α β : Type} {text rest : List Char}

theorem Stop.StandsIn.mono {stop : Stop} (h : stop.StandsIn rest) (hs : rest <:+ text) :
    stop.StandsIn text := by
  cases stop with
  | malformed cause left => trivial
  | numberTooLong digitCount =>
    obtain ⟨hlong, digits, hin, hdigits, hlength⟩ := h
    exact ⟨hlong, digits, hin.trans hs.isInfix, hdigits, hlength⟩

theorem Within.mono {result : Except Stop (α × List Char)} (h : Within rest result)
    (hs : rest <:+ text) : Within text result := by
  cases result with
  | ok found => exact List.IsSuffix.trans h hs
  | error stop => exact Stop.StandsIn.mono h hs

theorem Within.bind {result : Except Stop (α × List Char)}
    {next : α × List Char → Except Stop (β × List Char)} (h : Within text result)
    (k : ∀ a rest, Within rest (next (a, rest))) : Within text (result >>= next) := by
  cases result with
  | ok found => exact (k found.1 found.2).mono h
  | error stop => exact h

theorem Within.map {result : Except Stop (α × List Char)} (h : Within text result) (f : α → β) :
    Within text (result.map fun (a, rest) => (f a, rest)) := by
  cases result with
  | ok found => exact h
  | error stop => exact h

theorem skipSpace_suffix (text : List Char) : skipSpace text <:+ text :=
  List.dropWhile_suffix isSpace

theorem suffix_of_skipSpace {c : Char} (h : skipSpace text = c :: rest) : rest <:+ text := by
  have hs : c :: rest <:+ text := h ▸ skipSpace_suffix text
  exact (List.suffix_cons c rest).trans hs

/-! ### Strings -/

theorem suffix_readHex4? {n : Nat} (h : readHex4? text = some (n, rest)) : rest <:+ text := by
  unfold readHex4? at h
  split at h
  · rename_i a b c d left
    split at h
    · cases h
    · simp only [Option.bind_eq_bind, Option.bind_eq_some_iff] at h
      obtain ⟨_, -, _, -, _, -, _, -, h⟩ := h
      cases h
      exact List.suffix_append [a, b, c, d] rest
  · cases h

theorem within_readCodePoint (text : List Char) : Within text (readCodePoint text) := by
  unfold readCodePoint
  split
  · trivial
  · rename_i first left hfirst
    have hleft : left <:+ text := (suffix_readHex4? hfirst).trans (List.drop_suffix 1 text)
    split
    · split
      · split
        · trivial
        · rename_i second after hsecond
          split
          · have hafter := (suffix_readHex4? hsecond).trans (List.drop_suffix 2 _)
            exact hafter.trans hleft
          · exact hleft
      · exact hleft
    · exact hleft

theorem within_readChars (start : List Char) (fuel : Nat) (found text : List Char) :
    Within text (readChars start fuel found text) := by
  fun_induction readChars start fuel found text with
  | case1 => trivial
  | case2 => trivial
  | case3 fuel found rest => exact List.suffix_cons _ rest
  | case4 => trivial
  | case5 fuel found rest stop hstop =>
    have h := within_readCodePoint ('u' :: rest)
    rw [hstop] at h
    exact Stop.StandsIn.mono h (List.suffix_cons _ _)
  | case6 fuel found rest c left hcode ih =>
    have h := within_readCodePoint ('u' :: rest)
    rw [hcode] at h
    exact ih.mono (h.trans (List.suffix_cons _ _))
  | case7 => trivial
  | case8 fuel found c rest _ escape _ ih => exact ih.mono (List.suffix_append [_, c] rest)
  | case9 => trivial
  | case10 fuel found c rest _ _ _ _ _ ih => exact ih.mono (List.suffix_cons c rest)

theorem within_readString (fuel : Nat) (text : List Char) :
    Within text (readString fuel text) :=
  (within_readChars text fuel [] (text.drop 1)).mono (List.drop_suffix 1 text)

/-! ### Numbers -/

theorem splitWhole_spec (text : List Char) :
    (splitWhole text).1 ++ (splitWhole text).2 = text ∧
      ∀ c ∈ (splitWhole text).1, isAsciiDigit c = true := by
  unfold splitWhole
  split
  · exact ⟨rfl, List.forall_mem_singleton.mpr rfl⟩
  · obtain ⟨hdigits, -, htext⟩ := exists_run isAsciiDigit text
    exact ⟨htext.symm, hdigits⟩

theorem suffix_readFraction {fraction : List Char} (h : readFraction text = some (fraction, rest)) :
    rest <:+ text := by
  unfold readFraction at h
  split at h
  · rename_i left
    split at h
    · cases h
      exact (List.dropWhile_suffix isAsciiDigit).trans (List.suffix_cons '.' left)
    · cases h
  · cases h

theorem suffix_readSign (text : List Char) : (readSign text).2 <:+ text := by
  unfold readSign
  split
  · exact List.suffix_cons _ _
  · exact List.suffix_cons _ _
  · exact List.suffix_refl _

theorem suffix_readExponent {exponent : Int} (h : readExponent text = some (exponent, rest)) :
    rest <:+ text := by
  unfold readExponent at h
  split at h
  · rename_i c left
    split at h
    · dsimp only at h
      split at h
      · cases h
      · cases h
        have hsign := suffix_readSign left
        exact (List.dropWhile_suffix isAsciiDigit).trans (hsign.trans (List.suffix_cons c left))
    · cases h
  · cases h

theorem suffix_getD {found? : Option (α × List Char)} {default : α}
    (h : ∀ a left, found? = some (a, left) → left <:+ text) :
    (found?.getD (default, text)).2 <:+ text := by
  cases found? with
  | none => exact List.suffix_refl text
  | some found => exact h found.1 found.2 rfl

theorem within_readNumber (text : List Char) : Within text (readNumber text) := by
  unfold readNumber
  have hbare : (if text.head? = some '-' then text.drop 1 else text) <:+ text := by
    split
    · exact List.drop_suffix 1 text
    · exact List.suffix_refl text
  obtain ⟨hsplit, hdigits⟩ := splitWhole_spec
    (if text.head? = some '-' then text.drop 1 else text)
  simp only
  generalize (if text.head? = some '-' then text.drop 1 else text) = bare at *
  generalize splitWhole bare = split at *
  obtain ⟨whole, rest⟩ := split
  have hfront : whole <+: bare := ⟨rest, hsplit⟩
  have hback : rest <:+ bare := ⟨whole, hsplit⟩
  have hfraction : ((readFraction rest).getD ([], rest)).2 <:+ rest :=
    suffix_getD fun _ _ => suffix_readFraction
  have hexponent : ((readExponent ((readFraction rest).getD ([], rest)).2).getD
      (0, ((readFraction rest).getD ([], rest)).2)).2 <:+
        ((readFraction rest).getD ([], rest)).2 :=
    suffix_getD fun _ _ => suffix_readExponent
  have hleft := hexponent.trans (hfraction.trans (hback.trans hbare))
  split
  · trivial
  · split
    · split
      · rename_i hlong
        exact ⟨hlong, whole, hfront.isInfix.trans hbare.isInfix, hdigits, rfl⟩
      · exact hleft
    · exact hleft

theorem within_readWord (text : List Char) : Within text (readWord text) := by
  unfold readWord
  split
  · rename_i found hfound
    obtain ⟨⟨word, value⟩, -, hword⟩ := List.exists_of_findSome?_eq_some hfound
    obtain ⟨rest, hrest, rfl⟩ := Option.map_eq_some_iff.mp hword
    exact ⟨word, (dropHead?_eq_some_iff.mp hrest).symm⟩
  · exact within_readNumber text

/-! ### Values -/

theorem within_readValue_succ {fuel : Nat}
    (items : ∀ found text, Within text (readItems fuel found text))
    (fields : ∀ found text, Within text (readFields fuel found text)) (text : List Char) :
    Within text (readValue (fuel + 1) text) := by
  rw [readValue.eq_def]
  dsimp only
  split
  · exact (within_readString fuel _).map _
  · rename_i inside
    split
    · rename_i rest hend
      exact (suffix_of_skipSpace hend).trans (List.suffix_cons _ inside)
    · exact (fields [] _).mono ((skipSpace_suffix inside).trans (List.suffix_cons _ inside))
  · rename_i inside
    split
    · rename_i rest hend
      exact (suffix_of_skipSpace hend).trans (List.suffix_cons _ inside)
    · exact (items [] _).mono ((skipSpace_suffix inside).trans (List.suffix_cons _ inside))
  · exact within_readWord text

theorem within_readItems_succ {fuel : Nat} (value : ∀ text, Within text (readValue fuel text))
    (items : ∀ found text, Within text (readItems fuel found text)) (found : List Json)
    (text : List Char) : Within text (readItems (fuel + 1) found text) := by
  rw [readItems.eq_def]
  dsimp only
  refine (value text).bind fun item rest => ?_
  dsimp only
  split
  · rename_i left hend
    exact suffix_of_skipSpace hend
  · rename_i left hcomma
    exact (items _ _).mono ((skipSpace_suffix left).trans (suffix_of_skipSpace hcomma))
  · trivial

theorem within_readFields_succ {fuel : Nat} (value : ∀ text, Within text (readValue fuel text))
    (fields : ∀ found text, Within text (readFields fuel found text)) (found : Dictionary Json)
    (text : List Char) : Within text (readFields (fuel + 1) found text) := by
  rw [readFields.eq_def]
  dsimp only
  split
  · trivial
  · refine (within_readString fuel text).bind fun name rest => ?_
    dsimp only
    split
    · rename_i left hcolon
      refine (((value _).mono (skipSpace_suffix left)).bind fun item rest => ?_).mono
        (suffix_of_skipSpace hcolon)
      dsimp only
      split
      · rename_i left hend
        exact suffix_of_skipSpace hend
      · rename_i left hcomma
        exact (fields _ _).mono ((skipSpace_suffix left).trans (suffix_of_skipSpace hcomma))
      · trivial
    · trivial

/-- The three readers that call one another stay within their texts. -/
theorem within_read (fuel : Nat) :
    (∀ text, Within text (readValue fuel text)) ∧
      (∀ found text, Within text (readItems fuel found text)) ∧
      ∀ found text, Within text (readFields fuel found text) := by
  induction fuel with
  | zero =>
    refine ⟨fun text => ?_, fun found text => ?_, fun found text => ?_⟩
    · rw [readValue.eq_def]
      trivial
    · rw [readItems.eq_def]
      trivial
    · rw [readFields.eq_def]
      trivial
  | succ fuel ih =>
    obtain ⟨value, items, fields⟩ := ih
    exact ⟨within_readValue_succ items fields, within_readItems_succ value items,
      within_readFields_succ value fields⟩

theorem standsIn_readDocument {stop : Stop} (h : readDocument text = .error stop) :
    stop.StandsIn text := by
  have hvalue := ((within_read (2 * text.length + 2)).1 (skipSpace text)).mono
    (skipSpace_suffix text)
  unfold readDocument at h
  split at h
  · cases h
    trivial
  · cases hread : readValue (2 * text.length + 2) (skipSpace text) with
    | error cause =>
      rw [hread] at h hvalue
      cases h
      exact hvalue
    | ok found =>
      simp only [hread, bind, Except.bind] at h
      split at h
      · cases h
      · cases h
        trivial

theorem holdsDigits_of_read {digitCount : Nat}
    (h : read text = .error (.numberTooLong digitCount)) :
    Decimal.digitLimit < digitCount ∧ HoldsDigits text digitCount := by
  unfold read at h
  split at h
  · cases h
  · cases h
  · rename_i hstop
    cases h
    exact standsIn_readDocument hstop

theorem ne_of_isAsciiDigit {c d : Char} (hc : isAsciiDigit c = true)
    (hd : isAsciiDigit d = false) : c ≠ d := by
  rintro rfl
  rw [hc] at hd
  cases hd

theorem isSpace_of_isAsciiDigit {c : Char} (hc : isAsciiDigit c = true) : isSpace c = false := by
  rw [Bool.eq_false_iff]
  intro hspace
  simp only [isSpace, Bool.or_eq_true, decide_eq_true_eq] at hspace
  rcases hspace with ((hspace | hspace) | hspace) | hspace
  all_goals exact ne_of_isAsciiDigit hc (by decide) hspace

theorem head_words : ∀ word ∈ words.map Prod.fst, word.head?.any (!isAsciiDigit ·) = true := by
  decide +kernel

theorem readWord_digit {c : Char} (hc : isAsciiDigit c = true) (cs : List Char) :
    readWord (c :: cs) = readNumber (c :: cs) := by
  unfold readWord
  split
  · rename_i hfound
    obtain ⟨entry, hmem, hsome⟩ := List.exists_of_findSome?_eq_some hfound
    have hhead := head_words entry.1 (List.mem_map_of_mem hmem)
    obtain ⟨word, value⟩ := entry
    cases word with
    | nil => cases hhead
    | cons d ds =>
      have hd : isAsciiDigit d = false := by simpa using hhead
      have hne : d ≠ c := (ne_of_isAsciiDigit hc hd).symm
      simp [dropHead?, hne] at hsome
  · rfl

theorem readValue_digit {c : Char} (hc : isAsciiDigit c = true) (fuel : Nat) (cs : List Char) :
    readValue (fuel + 1) (c :: cs) = readNumber (c :: cs) := by
  rw [readValue.eq_def]
  dsimp only
  split
  · rename_i htext
    exact absurd (List.head_eq_of_cons_eq htext) (ne_of_isAsciiDigit hc (by decide))
  · rename_i htext
    exact absurd (List.head_eq_of_cons_eq htext) (ne_of_isAsciiDigit hc (by decide))
  · rename_i htext
    exact absurd (List.head_eq_of_cons_eq htext) (ne_of_isAsciiDigit hc (by decide))
  · exact readWord_digit hc cs

/-- Digits that do not begin with a zero are one number, which can be too long. -/
theorem readNumber_digits {digits : List Char} (hdigits : ∀ c ∈ digits, isAsciiDigit c = true)
    (hzero : digits.head? ≠ some '0') (hlong : Decimal.digitLimit < digits.length) :
    readNumber digits = .error (.numberTooLong digits.length) := by
  have hsign : digits.head? ≠ some '-' := by
    intro h
    exact absurd rfl (ne_of_isAsciiDigit (hdigits _ (List.mem_of_mem_head? h)) (by decide))
  have hsplit : splitWhole digits = (digits, []) := by
    unfold splitWhole
    split
    · exact absurd rfl hzero
    · rw [List.takeWhile_eq_self_iff.mpr hdigits, List.dropWhile_eq_nil_iff.mpr hdigits]
  have hsome : digits.isEmpty = false := by
    rw [List.isEmpty_eq_false_iff]
    rintro rfl
    cases hlong
  have hfraction : readFraction [] = none := rfl
  have hexponent : readExponent [] = none := rfl
  simp [readNumber, hsign, hsplit, hsome, hfraction, hexponent, hlong]

/-- A document that is a number and nothing else is not read if the number is too long. -/
theorem read_digits {digits : List Char} (hdigits : ∀ c ∈ digits, isAsciiDigit c = true)
    (hzero : digits.head? ≠ some '0') (hlong : Decimal.digitLimit < digits.length) :
    read digits = .error (.numberTooLong digits.length) := by
  have hnumber := readNumber_digits hdigits hzero hlong
  obtain ⟨c, cs, rfl⟩ := List.exists_cons_of_length_pos (Nat.zero_lt_of_lt hlong)
  have hc := hdigits c List.mem_cons_self
  have hmark : (c :: cs).head? ≠ some '\uFEFF' := by
    intro h
    exact absurd (Option.some.inj h) (ne_of_isAsciiDigit hc (by decide))
  have hspace : skipSpace (c :: cs) = c :: cs :=
    dropWhile_of_stops (stops_cons.mpr (isSpace_of_isAsciiDigit hc))
  have hdocument : readDocument (c :: cs) = .error (.numberTooLong (c :: cs).length) := by
    unfold readDocument
    rw [if_neg hmark, hspace, readValue_digit hc, hnumber]
    rfl
  rw [read, hdocument]

end LedgerQuery.Json
