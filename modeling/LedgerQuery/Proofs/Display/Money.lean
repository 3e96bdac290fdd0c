import LedgerQuery.Proofs.Display.Transaction

/-! The two texts of an amount. Money is rounded to a double before it is written, and an amount in
the line of a transaction is not; both show the hundredths nearest to the exact amount, since
rounding to a double keeps them. -/

namespace LedgerQuery.Display
open Decimal Text

def bare (text : List Char) : List Char :=
  text.filter fun c => !(c == '$' || c == ',')

def withoutSign (text : List Char) : List Char :=
  text.dropWhile (· = '-')

/-- What money and the text of the same amount show of its hundredths. -/
structure ShowsCents (shown : StyledText) (text : List Char) (hundredths : ℤ) : Prop where
  text_denotes : Denotes text (hundredths / 100)
  money_denotes : Denotes (bare shown.plain) (hundredths / 100)
  same : bare shown.plain = if hundredths = 0 then withoutSign text else text
  grouped : ∃ sign first rest places,
    shown.plain = sign ++ '$' :: joinWith [','] (first :: rest) ++ '.' :: places ∧
      (sign = if hundredths < 0 then ['-'] else []) ∧ IsGrouped first rest ∧ places.length = 2
  minus : shown.plain.head? = some '-' ↔ hundredths < 0
  red : shown.style = some .red ↔ hundredths < 0
  not_negative_zero : shown.plain ≠ ['-', '$', '0', '.', '0', '0']

def signText (negative : Bool) : List Char :=
  if negative then ['-'] else []

section Cents
variable {hundredths : ℤ} {negative : Bool}

theorem clean_centsText (grouped : Bool) (hundredths : ℕ) :
    clean (centsText grouped hundredths) = centsText grouped hundredths :=
  clean_of_le fun _ => le_of_mem_centsText hundredths

theorem denotes_signText (hnonpos : negative = true → hundredths ≤ 0)
    (hnonneg : negative = false → 0 ≤ hundredths) :
    Denotes (signText negative ++ centsText false hundredths.natAbs) (hundredths / 100) := by
  cases negative with
  | true =>
    have habs : hundredths = -(hundredths.natAbs : ℤ) := by
      have := hnonpos rfl
      omega
    have hcast : (hundredths : ℚ) = -(hundredths.natAbs : ℕ) := by
      rw [← Int.cast_natCast, ← Int.cast_neg, ← habs]
    rw [hcast, neg_div]
    exact denotes_neg_centsText hundredths.natAbs
  | false =>
    have habs : hundredths = (hundredths.natAbs : ℤ) := by
      have := hnonneg rfl
      omega
    have hcast : (hundredths : ℚ) = (hundredths.natAbs : ℕ) := by
      rw [← Int.cast_natCast, ← habs]
    rw [hcast]
    exact denotes_centsText hundredths.natAbs

theorem bare_centsText (hundredths : ℕ) :
    bare (centsText true hundredths) = centsText false hundredths := by
  apply filter_centsText (by decide) (by decide)
  intro c hc
  have hrange := (isAsciiDigit_iff.mp hc).1
  have hdollar : c ≠ '$' := fun he => absurd (he ▸ hrange) (by decide)
  have hcomma : c ≠ ',' := fun he => absurd (he ▸ hrange) (by decide)
  simp [hdollar, hcomma]

theorem bare_money (negative : Bool) (hundredths : ℕ) :
    bare (signText negative ++ '$' :: centsText true hundredths) =
      signText negative ++ centsText false hundredths := by
  have hsign : bare (signText negative) = signText negative := by cases negative <;> rfl
  have hdollar (text : List Char) : bare ('$' :: text) = bare text := rfl
  rw [bare, List.filter_append, ← bare, ← bare, hsign, hdollar, bare_centsText]

theorem showsCents {shown : StyledText} (hnonpos : negative = true → hundredths ≤ 0)
    (hnonneg : negative = false → 0 ≤ hundredths)
    (hplain : shown.plain =
      signText (hundredths < 0) ++ '$' :: centsText true hundredths.natAbs)
    (hstyle : shown.style = some .red ↔ hundredths < 0) :
    ShowsCents shown (signText negative ++ centsText false hundredths.natAbs) hundredths where
  text_denotes := denotes_signText hnonpos hnonneg
  money_denotes := by
    rw [hplain, bare_money]
    exact denotes_signText (by simpa using fun h => h.le) (by simp)
  same := by
    rw [hplain, bare_money]
    split
    · rename_i hzero
      subst hzero
      cases negative <;> decide
    · have hsign : decide (hundredths < 0) = negative := by
        cases negative with
        | true => exact decide_eq_true (by have := hnonpos rfl; omega)
        | false => exact decide_eq_false (by have := hnonneg rfl; omega)
      rw [hsign]
  grouped := by
    obtain ⟨first, rest, places, heq, hg, hlength⟩ := exists_grouped_centsText hundredths.natAbs
    refine ⟨signText (hundredths < 0), first, rest, places, ?_, by simp [signText], hg, hlength⟩
    rw [hplain, heq, List.append_assoc, List.cons_append]
  minus := by
    rw [hplain]
    by_cases hneg : hundredths < 0
    · simp [signText, hneg]
    · simp [signText, hneg]
  red := hstyle
  not_negative_zero := by
    intro h
    by_cases hneg : hundredths < 0
    · have hzero : bare ['-', '$', '0', '.', '0', '0'] = '-' :: centsText false 0 := by decide
      have hbare := congrArg bare h
      rw [hplain, bare_money, hzero] at hbare
      have hcents : centsText false hundredths.natAbs = centsText false 0 := by
        simpa [signText, hneg] using hbare
      have := centsText_injective hcents
      omega
    · have hhead := congrArg List.head? (hplain ▸ h)
      simp [signText, hneg] at hhead

end Cents

section Finite
variable (negative : Bool) {mantissa : ℕ} {exponent : ℤ}

def signedCents (mantissa : ℕ) (exponent : ℤ) : ℤ :=
  if negative then -(cents mantissa exponent : ℕ) else (cents mantissa exponent : ℕ)

/-- Money shows the hundredths of the amount, though it rounds twice. -/
theorem money_finite (h : Binary64.InRange mantissa exponent) :
    money (.finite negative mantissa exponent) =
      if cents mantissa exponent = 0 then ⟨['$', '0', '.', '0', '0'], none, []⟩
      else if negative then
        ⟨'-' :: '$' :: centsText true (cents mantissa exponent), some .red, []⟩
      else ⟨'$' :: centsText true (cents mantissa exponent), some .green, []⟩ := by
  obtain ⟨rounded, place, hround, hcents, hzero⟩ := Binary64.exists_roundToCents negative h
  have hdollar (text : List Char) : clean ('$' :: text) = '$' :: clean text := rfl
  have hminus (text : List Char) : clean ('-' :: text) = '-' :: clean text := rfl
  unfold money
  dsimp only
  rw [hround, groupedSize, hcents]
  by_cases hnone : cents mantissa exponent = 0
  · have hrounded := hzero.mpr hnone
    simp [Binary64.isNegative, Binary64.isPositive, hrounded, hnone, StyledText.ofPiece]
    decide
  · have hrounded : rounded ≠ 0 := fun he => hnone (hzero.mp he)
    cases negative with
    | true =>
      simp [Binary64.isNegative, hrounded, hnone, StyledText.ofPiece, hminus, hdollar,
        clean_centsText]
    | false =>
      simp [Binary64.isNegative, Binary64.isPositive, hrounded, hnone, StyledText.ofPiece, hdollar,
        clean_centsText]

theorem money_eq_signText (h : Binary64.InRange mantissa exponent) :
    (money (.finite negative mantissa exponent)).plain =
      signText (signedCents negative mantissa exponent < 0) ++
        '$' :: centsText true (signedCents negative mantissa exponent).natAbs := by
  rw [money_finite negative h, signedCents]
  by_cases hnone : cents mantissa exponent = 0
  · simp only [hnone]
    cases negative <;> decide
  · cases negative with
    | true => simp [hnone, signText, Nat.pos_of_ne_zero hnone]
    | false => simp [hnone, signText]

theorem money_red (h : Binary64.InRange mantissa exponent) :
    (money (.finite negative mantissa exponent)).style = some .red ↔
      signedCents negative mantissa exponent < 0 := by
  rw [money_finite negative h, signedCents]
  by_cases hnone : cents mantissa exponent = 0
  · simp [hnone]
  · cases negative with
    | true => simp [hnone, Nat.pos_of_ne_zero hnone]
    | false => simp [hnone]

theorem showsCents_money (h : Binary64.InRange mantissa exponent) :
    ShowsCents (money (.finite negative mantissa exponent))
      (twoPlaces (.finite negative mantissa exponent))
      (signedCents negative mantissa exponent) := by
  have htext : twoPlaces (.finite negative mantissa exponent) =
      signText negative ++ centsText false (signedCents negative mantissa exponent).natAbs := by
    cases negative <;> simp [twoPlaces, signText, signedCents]
  rw [htext]
  refine showsCents ?_ ?_ (money_eq_signText negative h) (money_red negative h)
  · rintro rfl
    simp [signedCents]
  · rintro rfl
    simp [signedCents]

theorem roundsTo_signedCents (mantissa : ℕ) (exponent : ℤ) :
    RoundsTo (100 * if negative then -Binary64.magnitude mantissa exponent
      else Binary64.magnitude mantissa exponent) (signedCents negative mantissa exponent) := by
  have hcents := Binary64.roundsTo_cents mantissa exponent
  cases negative with
  | true => simpa [signedCents] using hcents.neg
  | false => simpa [signedCents] using hcents

end Finite

theorem takeWhile_transaction (settings : Settings) (t : Transaction) :
    (transaction settings t).plain.takeWhile (· ≠ '\t') = twoPlaces (.ofFloat t.amount) := by
  have hfree : ∀ c ∈ twoPlaces (.ofFloat t.amount), decide (c ≠ '\t') = true := by
    intro c hc
    have hle := le_of_mem_twoPlaces c hc
    exact decide_eq_true fun he => absurd (he ▸ hle) (by decide)
  rw [plain_transaction, Columns.text]
  simp only [List.append_assoc, List.cons_append]
  exact (List.takeWhile_append_of_pos hfree).trans (by simp [columnsOf])

/-- Money and the line of a transaction show the same hundredths of an amount: those nearest to its
exact value. -/
theorem money_agrees {x : Float} {amount : ℚ} (h : (Binary64.ofFloat x).rational? = some amount) :
    ∃ hundredths : ℤ, RoundsTo (100 * amount) hundredths ∧
      ShowsCents (money (.ofFloat x)) (twoPlaces (.ofFloat x)) hundredths ∧
      ∀ (settings : Settings) (t : Transaction), t.amount = x →
        (transaction settings t).plain.takeWhile (· ≠ '\t') = twoPlaces (.ofFloat x) := by
  cases hx : Binary64.ofFloat x with
  | nan =>
    rw [hx] at h
    cases h
  | infinite negative =>
    rw [hx] at h
    cases h
  | finite negative mantissa exponent =>
    rw [hx] at h
    cases h
    have hrange : Binary64.InRange mantissa exponent := Binary64.inRange_of_ofBits hx
    refine ⟨signedCents negative mantissa exponent, roundsTo_signedCents negative mantissa exponent,
      showsCents_money negative hrange, ?_⟩
    rintro settings t rfl
    rw [takeWhile_transaction, hx]

/-- An amount of -1234.565, of which the nearest double is a little farther below zero. -/
theorem money_agrees_below_zero :
    (Binary64.ofFloat (.ofBits 0xC0934A428F5C28F6)).rational? =
      some (-Binary64.magnitude 5429674290981110 (-42)) ∧
    ∃ hundredths : ℤ, RoundsTo (100 * -Binary64.magnitude 5429674290981110 (-42)) hundredths ∧
      ShowsCents (money (.ofFloat (.ofBits 0xC0934A428F5C28F6)))
        (twoPlaces (.ofFloat (.ofBits 0xC0934A428F5C28F6))) hundredths ∧
      ∀ (settings : Settings) (t : Transaction), t.amount = .ofBits 0xC0934A428F5C28F6 →
        (transaction settings t).plain.takeWhile (· ≠ '\t') =
          twoPlaces (.ofFloat (.ofBits 0xC0934A428F5C28F6)) := by
  have hbits : Binary64.ofFloat (.ofBits 0xC0934A428F5C28F6) =
      .finite true 5429674290981110 (-42) := by decide
  have hamount : (Binary64.ofFloat (.ofBits 0xC0934A428F5C28F6)).rational? =
      some (-Binary64.magnitude 5429674290981110 (-42)) := by
    rw [hbits]
    rfl
  exact ⟨hamount, money_agrees hamount⟩

example : money (.finite true 5429674290981110 (-42)) =
    ⟨"-$1,234.57".toList, some .red, []⟩ := by decide

end LedgerQuery.Display
