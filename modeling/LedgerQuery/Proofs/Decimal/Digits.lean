import LedgerQuery.Decimal.Binary64
import LedgerQuery.Proofs.Text.Blank
import Mathlib.Algebra.Group.Nat.Defs
import Mathlib.Data.List.Induction

/-! # Digits and the exponents of whole numbers -/

namespace LedgerQuery.Decimal

/-! ## Natural numbers as digits and back

Reading the digits of a number gives the number, and a run of digits of any script stands for a
number that has no more digits than the run. -/

open Text

theorem digitValue?_digitChar {d : Nat} (h : d < 10) : digitValue? d.digitChar = some d := by
  have table : ∀ d < 10, digitValue? (Nat.digitChar d) = some d := by decide
  exact table d h

theorem digitValue?_lt {c : Char} {d : Nat} (h : digitValue? c = some d) : d < 10 := by
  rw [digitValue?] at h
  by_cases hd : (decide ('0' ≤ c) && decide (c ≤ '9')) = true
  · have hrange := isAsciiDigit_iff.mp hd
    rw [if_pos hd, Option.some.injEq] at h
    omega
  · rw [if_neg hd] at h
    by_cases hn : c.toNat < 128
    · rw [if_pos hn] at h
      cases h
    · rw [if_neg hn, Option.map_eq_some_iff] at h
      obtain ⟨base, hfound, rfl⟩ := h
      have hin := Array.find?_some hfound
      simp only [Bool.and_eq_true, decide_eq_true_eq] at hin
      omega

theorem value_append_singleton (text : List Char) (c : Char) :
    value (text ++ [c]) = 10 * value text + (digitValue? c).getD 0 := by
  simp [value, List.foldl_append]

theorem digits_step (n : Nat) :
    digits n = if n < 10 then [n.digitChar] else digits (n / 10) ++ [(n % 10).digitChar] :=
  Nat.toDigits_eq_if (by decide)

theorem digits_ne_nil (n : Nat) : digits n ≠ [] :=
  Nat.toDigits_ne_nil

theorem value_digits (n : Nat) : value (digits n) = n := by
  induction n using Nat.strongRecOn with
  | ind n ih =>
    rw [digits_step]
    by_cases h : n < 10
    · simp [h, value, digitValue?_digitChar h]
    · have hrest := ih (n / 10) (by omega)
      have hlast := digitValue?_digitChar (Nat.mod_lt n (by decide : 0 < 10))
      rw [if_neg h, value_append_singleton, hrest, hlast, Option.getD_some]
      omega

theorem isAsciiDigit_of_mem_digits {n : Nat} {c : Char} (h : c ∈ digits n) :
    isAsciiDigit c = true :=
  Nat.isDigit_of_mem_toDigits (by decide) (by decide) h

theorem isDigit_of_isAsciiDigit {c : Char} (h : isAsciiDigit c = true) : isDigit c = true := by
  rw [isDigit, digitValue?]
  simp only [isAsciiDigit] at h
  rw [if_pos h]
  rfl

theorem isDigit_of_mem_digits {n : Nat} {c : Char} (h : c ∈ digits n) : isDigit c = true :=
  isDigit_of_isAsciiDigit (isAsciiDigit_of_mem_digits h)

theorem length_digits_le {n : Nat} (h : n < 10 ^ digitLimit) : (digits n).length ≤ digitLimit :=
  (Nat.length_toDigits_le_iff (by decide) (by decide)).mpr h

theorem isAsciiDigit_of_mem_padded {width n : Nat} {c : Char} (h : c ∈ padded width n) :
    isAsciiDigit c = true := by
  rcases List.mem_append.mp h with h | h
  · rw [List.eq_of_mem_replicate h]
    decide
  · exact isAsciiDigit_of_mem_digits h

theorem length_padded {width n : Nat} (hwidth : 0 < width) (h : n < 10 ^ width) :
    (padded width n).length = width := by
  have hdigits : (digits n).length ≤ width :=
    (Nat.length_toDigits_le_iff (by decide) hwidth).mpr h
  rw [padded, padZeros, List.length_append, List.length_replicate]
  omega

theorem value_padded (width n : Nat) : value (padded width n) = n := by
  have hzeros (count : Nat) (text : List Char) :
      value (List.replicate count '0' ++ text) = value text := by
    induction count with
    | zero => rfl
    | succ count ih => exact ih
  rw [padded, padZeros, hzeros, value_digits]

theorem value_lt (text : List Char) : value text < 10 ^ text.length := by
  induction text using List.reverseRecOn with
  | nil => decide
  | append_singleton front c ih =>
    have hlast : (digitValue? c).getD 0 < 10 := by
      cases hd : digitValue? c with
      | none => decide
      | some d => exact digitValue?_lt hd
    rw [value_append_singleton, List.length_append, List.length_singleton, Nat.pow_succ]
    omega

theorem value_lt_of_length_le {text : List Char} (h : text.length ≤ digitLimit) :
    value text < 10 ^ digitLimit :=
  Nat.lt_of_lt_of_le (value_lt text) (Nat.pow_le_pow_right (by decide) h)

theorem ungroup?_digits {text : List Char} (some : text ≠ [])
    (h : ∀ c ∈ text, isDigit c = true) : ungroup? text = Option.some text := by
  fun_induction ungroup? text with
  | case1 => exact absurd rfl some
  | case2 c hc => rfl
  | case3 c hc => exact absurd (h c List.mem_cons_self) hc
  | case4 c cs hc ih => exact absurd (h '_' (by simp)) (by decide)
  | case5 c cs hc => exact absurd (h c List.mem_cons_self) hc
  | case6 c cs hone hscore hc ih =>
    have hcs : cs ≠ [] := fun he => hone (by rw [he])
    rw [ih hcs fun d hd => h d (List.mem_cons_of_mem c hd)]
    rfl
  | case7 c cs hone hscore hc => exact absurd (h c List.mem_cons_self) hc

theorem readInt_digits {n : Nat} (h : n < 10 ^ digitLimit) :
    readInt (digits n) = .ok (n : Int) := by
  have hdigit : ∀ c ∈ digits n, 48 ≤ c.toNat ∧ c.toNat ≤ 57 := fun c hc =>
    isAsciiDigit_iff.mp (isAsciiDigit_of_mem_digits hc)
  have hpadding : ∀ c ∈ digits n, isPadding c = false := by
    intro c hc
    have hrange := hdigit c hc
    simp only [isPadding, Bool.or_eq_false_iff, Bool.and_eq_false_iff, decide_eq_false_iff_not,
      beq_eq_false_iff_ne]
    omega
  have hstart : (digits n).dropWhile isPadding = digits n :=
    dropWhile_of_stops fun c hc => hpadding c (List.mem_of_mem_head? hc)
  have hend : (digits n).reverse.dropWhile isPadding = (digits n).reverse := by
    refine dropWhile_of_stops fun c hc => hpadding c ?_
    exact List.mem_reverse.mp (List.mem_of_mem_head? hc)
  have hnat : readNat (digits n) = .ok n := by
    rw [readNat, ungroup?_digits (digits_ne_nil n) fun _ => isDigit_of_mem_digits]
    simp only [if_neg (Nat.not_lt.mpr (length_digits_le h)), value_digits]
  rw [readInt, hstart, hend, List.reverse_reverse]
  split
  · rename_i ds hds
    exact absurd (hdigit '-' (by rw [hds]; exact List.mem_cons_self)).1 (by decide)
  · rename_i ds hds
    exact absurd (hdigit '+' (by rw [hds]; exact List.mem_cons_self)).1 (by decide)
  · rw [hnat]
    rfl

end LedgerQuery.Decimal

namespace LedgerQuery.Decimal.Binary64

/-! ## Whole numbers as doubles

The exponent of the double nearest to a number follows the length of the number in bits, so a number
of no more than 1023 bits is within the range of doubles. -/

/-- Whole numbers below this one have a nearest double. -/
def wholeLimit : Nat := 2 ^ 1023

theorem lt_wholeLimit {n : Nat} (h : n ≤ 1023) : n < wholeLimit := by
  have hpow (bits : Nat) : bits < 2 ^ bits := Nat.lt_two_pow_self
  unfold wholeLimit
  exact Nat.lt_of_le_of_lt h (hpow 1023)

/-- A whole number that has a nearest double is not too long to be written. -/
theorem wholeLimit_le : wholeLimit ≤ 10 ^ digitLimit := by
  have hbase (bits : Nat) : 2 ^ bits ≤ 10 ^ bits := Nat.pow_le_pow_left (by decide) bits
  have hdigits (bits : Nat) (h : bits ≤ digitLimit) : 10 ^ bits ≤ 10 ^ digitLimit :=
    Nat.pow_le_pow_right (by decide) h
  unfold wholeLimit
  exact Nat.le_trans (hbase 1023) (hdigits 1023 (by decide))

theorem exponentFor_one_le (num : Nat) :
    exponentFor num 1 ≤ max ((num.log2 : Int) - 53) minExponent + 1 := by
  unfold exponentFor
  have hone : Nat.log2 1 = 0 := by decide
  simp only [hone]
  split
  · omega
  · omega

theorem nearest_one_ne_infinite {num : Nat} (h : num.log2 < 1023) (negative sign : Bool) :
    nearest negative num 1 ≠ .infinite sign := by
  have hbelow : exponentFor num 1 + 1 ≤ maxExponent := by
    have hexponent := exponentFor_one_le num
    simp only [minExponent, maxExponent] at *
    omega
  unfold nearest
  dsimp only
  -- rounding up to the next power of two makes the exponent one larger
  split
  · rw [if_neg (by omega)]
    exact nofun
  · rw [if_neg (by omega)]
    exact nofun

theorem log2_lt_of_lt {num bits : Nat} (h : num < 2 ^ bits) (hbits : 0 < bits) :
    num.log2 < bits := by
  rcases Nat.eq_zero_or_pos num with rfl | hpos
  · exact hbits
  · exact (Nat.log2_lt (Nat.ne_of_gt hpos)).mpr h

theorem exists_ofInt? {n : Int} (h : n.natAbs < wholeLimit) : ∃ x, ofInt? n = some x := by
  unfold wholeLimit at h
  have hlog : n.natAbs.log2 < 1023 := log2_lt_of_lt h (by decide)
  unfold ofInt?
  split
  · rename_i sign he
    exact absurd he (nearest_one_ne_infinite hlog _ sign)
  · exact ⟨_, rfl⟩

end LedgerQuery.Decimal.Binary64
