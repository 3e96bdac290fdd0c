import LedgerQuery.Decimal.Binary64
import LedgerQuery.Proofs.Decimal.Digits
import LedgerQuery.Proofs.Text.Blank
import Mathlib.Algebra.Order.Field.Power
import Mathlib.Algebra.Order.Field.Rat
import Mathlib.Tactic.FieldSimp
import Mathlib.Tactic.Linarith
import Mathlib.Tactic.Positivity
import Mathlib.Tactic.Ring

/-! # Rounding to doubles and to hundredths -/

namespace LedgerQuery.Decimal

/-! ## Rounding to whole numbers

A rational rounds to the whole number that is nearest to it, the even one of two; there is just one
such number, and whatever is no farther from it rounds to it too. -/

/-- The whole number is nearest to the rational, and even if another one is as near. -/
structure RoundsTo (q : ℚ) (k : ℤ) : Prop where
  near : |q - k| ≤ 1 / 2
  even : |q - k| = 1 / 2 → Even k

variable {p q : ℚ} {j k : ℤ}

theorem one_le_distances (hne : j ≠ k) : 1 ≤ |q - j| + |q - k| := by
  have hapart : (1 : ℚ) ≤ |(j : ℚ) - k| := by
    exact_mod_cast Int.one_le_abs (sub_ne_zero.mpr hne)
  calc (1 : ℚ) ≤ |(j : ℚ) - k| := hapart
    _ ≤ |(j : ℚ) - q| + |q - k| := abs_sub_le _ _ _
    _ = |q - j| + |q - k| := by rw [abs_sub_comm]

theorem RoundsTo.le (h : RoundsTo q k) (j : ℤ) : |q - k| ≤ |q - j| := by
  rcases eq_or_ne j k with rfl | hne
  · exact le_rfl
  · have hapart := one_le_distances (q := q) hne
    have hnear := h.near
    linarith

/-- What is no larger than a whole number does not round to a larger one. -/
theorem RoundsTo.le_of_le (h : RoundsTo q k) (hq : q ≤ j) : k ≤ j := by
  have hnear : |q - k| ≤ j - q := by
    calc |q - k| ≤ |q - j| := h.le j
      _ = j - q := by rw [abs_sub_comm, abs_of_nonneg (sub_nonneg.mpr hq)]
  have hbelow : (k : ℚ) ≤ j := by
    have := (abs_le.mp hnear).1
    linarith
  exact_mod_cast hbelow

theorem RoundsTo.unique (hj : RoundsTo q j) (hk : RoundsTo q k) : j = k := by
  by_contra hne
  have hapart := one_le_distances (q := q) hne
  have hnearj := hj.near
  have hneark := hk.near
  -- both are at half a unit, so both are even, and no two even numbers are that near
  have hevenj := hj.even (by linarith)
  have hevenk := hk.even (by linarith)
  have hclose : |(j : ℚ) - k| ≤ 1 := by
    have htriangle := abs_sub_le (j : ℚ) q k
    rw [abs_sub_comm (j : ℚ) q] at htriangle
    linarith
  have hone : |j - k| ≤ 1 := by exact_mod_cast hclose
  obtain ⟨half, hhalf⟩ := hevenj.sub hevenk
  have hbounds := abs_le.mp hone
  omega

theorem roundsTo_of_lt (h : |q - k| < 1 / 2) : RoundsTo q k :=
  ⟨h.le, fun he => absurd he h.ne⟩

theorem roundsTo_of_even (heven : Even k) (h : |q - k| ≤ 1 / 2) : RoundsTo q k :=
  ⟨h, fun _ => heven⟩

theorem RoundsTo.neg (h : RoundsTo q k) : RoundsTo (-q) (-k) := by
  have habs : |-q - ((-k : ℤ) : ℚ)| = |q - k| := by
    rw [Int.cast_neg, sub_neg_eq_add, neg_add_eq_sub, abs_sub_comm]
  constructor
  · rw [habs]
    exact h.near
  · rw [habs]
    exact fun hhalf => (h.even hhalf).neg

/-- What is no farther from the whole number rounds to it too. -/
theorem RoundsTo.of_nearer (h : RoundsTo p k) (hnear : |q - k| ≤ |p - k|) : RoundsTo q k := by
  constructor
  · exact hnear.trans h.near
  · intro hhalf
    exact h.even (le_antisymm h.near (hhalf ▸ hnear))

theorem roundsTo_roundHalfEven (num : ℕ) {den : ℕ} (hden : 0 < den) :
    RoundsTo ((num : ℚ) / den) (roundHalfEven num den : ℕ) := by
  have hpos : (0 : ℚ) < den := by exact_mod_cast hden
  have hsplit : (num : ℚ) / den = (num / den : ℕ) + ((num % den : ℕ) : ℚ) / den := by
    have hnum : (num : ℚ) = den * (num / den : ℕ) + (num % den : ℕ) := by
      exact_mod_cast (Nat.div_add_mod num den).symm
    rw [← mul_div_cancel_left₀ ((num / den : ℕ) : ℚ) hpos.ne', ← add_div, ← hnum]
  have hlt : num % den < den := Nat.mod_lt num hden
  unfold roundHalfEven
  dsimp only
  generalize num / den = quotient at *
  generalize num % den = rest at *
  have hnonneg : (0 : ℚ) ≤ (rest : ℚ) / den := by positivity
  rw [hsplit]
  split
  · rename_i hlow
    have hhalf : (rest : ℚ) / den < 1 / 2 := by
      have : (2 * rest : ℚ) < den := by exact_mod_cast hlow
      rw [div_lt_iff₀ hpos]
      linarith
    apply roundsTo_of_lt
    rw [abs_lt]
    push_cast
    constructor <;> linarith
  · split
    · rename_i hlow hhigh
      have hhalf : 1 / 2 < (rest : ℚ) / den := by
        have : (den : ℚ) < 2 * rest := by exact_mod_cast hhigh
        rw [lt_div_iff₀ hpos]
        linarith
      have hone : (rest : ℚ) / den < 1 := by
        rw [div_lt_one hpos]
        exact_mod_cast hlt
      apply roundsTo_of_lt
      rw [abs_lt]
      push_cast
      constructor <;> linarith
    · rename_i hlow hhigh
      have hhalf : (rest : ℚ) / den = 1 / 2 := by
        have : (2 * rest : ℚ) = den := by exact_mod_cast (by omega : 2 * rest = den)
        rw [div_eq_iff hpos.ne']
        linarith
      have heven : Even (quotient + quotient % 2) := by
        rw [Nat.even_iff]
        omega
      apply roundsTo_of_even (by exact_mod_cast heven)
      rw [hhalf, abs_le]
      rcases Nat.mod_two_eq_zero_or_one quotient with h | h
      · rw [h]
        push_cast
        constructor <;> linarith
      · rw [h]
        push_cast
        constructor <;> linarith

end LedgerQuery.Decimal

namespace LedgerQuery.Decimal.Binary64

/-! ## The double nearest to a quotient

Its exponent is the one at which the quotient has a mantissa of 53 bits, so that no double is nearer
than the one with the rounded mantissa. An amount that is rounded to hundredths, taken to the
nearest double and rounded again keeps its hundredths: the double is as near to them as the amount
was. -/

def magnitude (mantissa : ℕ) (exponent : ℤ) : ℚ :=
  mantissa * 2 ^ exponent

def rational? : Binary64 → Option ℚ
  | .finite negative mantissa exponent =>
    some (if negative then -magnitude mantissa exponent else magnitude mantissa exponent)
  | _ => none

structure InRange (mantissa : ℕ) (exponent : ℤ) : Prop where
  mantissa_lt : mantissa < 2 ^ 53
  low : minExponent ≤ exponent
  high : exponent ≤ maxExponent

theorem inRange_of_ofBits {bits : ℕ} {negative : Bool} {mantissa : ℕ} {exponent : ℤ}
    (h : ofBits bits = .finite negative mantissa exponent) : InRange mantissa exponent := by
  have hfraction : bits % Nat.pow 2 52 < Nat.pow 2 52 := Nat.mod_lt _ (by decide)
  have hfield : bits / Nat.pow 2 52 % 2048 < 2048 := Nat.mod_lt _ (by decide)
  have hpow : Nat.pow 2 52 + Nat.pow 2 52 = 2 ^ 53 := by decide
  simp only [ofBits] at h
  generalize bits % Nat.pow 2 52 = fraction at *
  generalize bits / Nat.pow 2 52 % 2048 = field at *
  split at h
  · split at h <;> cases h
  · split at h
    · cases h
      exact ⟨by omega, le_rfl, by decide⟩
    · cases h
      refine ⟨by omega, ?_, ?_⟩
      · simp only [minExponent]
        omega
      · simp only [minExponent, maxExponent]
        omega

theorem pow_toNat_div (e : ℤ) : (2 : ℚ) ^ e.toNat / 2 ^ (-e).toNat = 2 ^ e := by
  obtain ⟨n, rfl | rfl⟩ := e.eq_nat_or_neg
  · simp
  · simp

theorem two_pow_add (e : ℤ) (bits : ℕ) : (2 : ℚ) ^ (e + bits) = ((2 ^ bits : ℕ) : ℤ) * 2 ^ e := by
  rw [zpow_add₀ two_ne_zero, zpow_natCast, mul_comm]
  push_cast
  rfl

theorem fraction_eq_magnitude (mantissa : ℕ) (exponent : ℤ) :
    ((fraction mantissa exponent).1 : ℚ) / (fraction mantissa exponent).2 =
      magnitude mantissa exponent := by
  rw [magnitude, ← pow_toNat_div, ← mul_div_assoc]
  simp [fraction]

theorem fraction_den_pos (mantissa : ℕ) (exponent : ℤ) : 0 < (fraction mantissa exponent).2 :=
  Nat.two_pow_pos _

theorem div_pow_eq (num den : ℕ) (e : ℤ) :
    ((num * Nat.pow 2 (-e).toNat : ℕ) : ℚ) / (den * Nat.pow 2 e.toNat : ℕ) =
      (num : ℚ) / den / 2 ^ e := by
  rw [← pow_toNat_div]
  push_cast [Nat.pow_eq]
  field_simp

theorem roundsTo_cents (mantissa : ℕ) (exponent : ℤ) :
    RoundsTo (100 * magnitude mantissa exponent) (cents mantissa exponent : ℕ) := by
  have h := roundsTo_roundHalfEven ((fraction mantissa exponent).1 * 100)
    (fraction_den_pos mantissa exponent)
  rw [Nat.cast_mul, mul_div_right_comm, fraction_eq_magnitude, mul_comm] at h
  exact h

section Nearest
variable {num den : ℕ}

theorem log2_bounds (hn : 0 < num) (hd : 0 < den) :
    (2 : ℚ) ^ ((num.log2 : ℤ) - den.log2 - 1) ≤ num / den ∧
      (num : ℚ) / den < 2 ^ ((num.log2 : ℤ) - den.log2 + 1) := by
  have hnum : (2 : ℚ) ^ num.log2 ≤ num ∧ (num : ℚ) < 2 ^ (num.log2 + 1) := by
    constructor
    · exact_mod_cast Nat.log2_self_le hn.ne'
    · exact_mod_cast Nat.lt_log2_self
  have hden : (2 : ℚ) ^ den.log2 ≤ den ∧ (den : ℚ) < 2 ^ (den.log2 + 1) := by
    constructor
    · exact_mod_cast Nat.log2_self_le hd.ne'
    · exact_mod_cast Nat.lt_log2_self
  have hpos : (0 : ℚ) < den := by exact_mod_cast hd
  constructor
  · rw [le_div_iff₀ hpos]
    calc (2 : ℚ) ^ ((num.log2 : ℤ) - den.log2 - 1) * den
        ≤ 2 ^ ((num.log2 : ℤ) - den.log2 - 1) * 2 ^ (den.log2 + 1) := by
          gcongr
          exact hden.2.le
      _ = 2 ^ num.log2 := by
          rw [← zpow_natCast, ← zpow_natCast, ← zpow_add₀ two_ne_zero]
          congr 1
          push_cast
          ring
      _ ≤ num := hnum.1
  · rw [div_lt_iff₀ hpos]
    calc (num : ℚ) < 2 ^ (num.log2 + 1) := hnum.2
      _ = 2 ^ ((num.log2 : ℤ) - den.log2 + 1) * 2 ^ den.log2 := by
          rw [← zpow_natCast, ← zpow_natCast, ← zpow_add₀ two_ne_zero]
          congr 1
          push_cast
          ring
      _ ≤ 2 ^ ((num.log2 : ℤ) - den.log2 + 1) * den := by
          gcongr
          exact hden.1

/-- At this exponent a quotient has a mantissa of 53 bits, or of fewer if the exponent is the
smallest one. -/
structure IsScale (q : ℚ) (exponent : ℤ) : Prop where
  low : minExponent ≤ exponent
  below : q < 2 ^ (exponent + 53)
  above : exponent = minExponent ∨ 2 ^ (exponent + 52) ≤ q

theorem scaled_lt_iff (hd : 0 < den) (e : ℤ) (bound : ℕ) :
    num * Nat.pow 2 (-e).toNat / (den * Nat.pow 2 e.toNat) < bound ↔
      (num : ℚ) / den / 2 ^ e < bound := by
  have hpos : 0 < den * Nat.pow 2 e.toNat := Nat.mul_pos hd (Nat.two_pow_pos _)
  rw [← div_pow_eq, div_lt_iff₀ (by exact_mod_cast hpos), Nat.div_lt_iff_lt_mul hpos]
  exact_mod_cast Iff.rfl

theorem isScale_exponentFor (hn : 0 < num) (hd : 0 < den) :
    IsScale ((num : ℚ) / den) (exponentFor num den) := by
  obtain ⟨hlow, hhigh⟩ := log2_bounds hn hd
  unfold exponentFor
  dsimp only
  generalize hlength : (num.log2 : ℤ) - den.log2 = length at *
  have htwo : (1 : ℚ) ≤ 2 := one_le_two
  have hpos (e : ℤ) : (0 : ℚ) < 2 ^ e := zpow_pos two_pos e
  have hmantissa (e : ℤ) : (2 : ℚ) ^ (e + 53) = (Nat.pow 2 53 : ℕ) * 2 ^ e := two_pow_add e 53
  split
  · rename_i hsmall
    rw [scaled_lt_iff hd, div_lt_iff₀ (hpos _), ← hmantissa] at hsmall
    refine ⟨le_max_right _ _, hsmall, ?_⟩
    rcases le_total (length - 53) minExponent with h | h
    · exact .inl (max_eq_right h)
    · right
      rw [max_eq_left h]
      exact (zpow_le_zpow_right₀ htwo (by omega)).trans hlow
  · rename_i hlarge
    rw [scaled_lt_iff hd, div_lt_iff₀ (hpos _), ← hmantissa, not_lt] at hlarge
    refine ⟨by omega, ?_, .inr ?_⟩
    · exact hhigh.trans_le (zpow_le_zpow_right₀ htwo (by omega))
    · exact (zpow_le_zpow_right₀ htwo (by omega)).trans hlarge

structure IsNearest (q : ℚ) (mantissa : ℕ) (exponent : ℤ) : Prop extends
    InRange mantissa exponent where
  nearest : ∀ {other : ℕ} {place : ℤ}, InRange other place →
    |q - magnitude mantissa exponent| ≤ |q - magnitude other place|

def largest : ℚ :=
  magnitude (2 ^ 53 - 1) maxExponent

section Scale
variable {q : ℚ} {e : ℤ} {mantissa : ℕ}

theorem distance_eq (q : ℚ) (e : ℤ) (m : ℚ) : |q - m * 2 ^ e| = |q / 2 ^ e - m| * 2 ^ e := by
  have hpos : (0 : ℚ) < 2 ^ e := zpow_pos two_pos e
  calc |q - m * 2 ^ e| = |(q / 2 ^ e - m) * 2 ^ e| := by
        rw [sub_mul, div_mul_cancel₀ q hpos.ne']
    _ = |q / 2 ^ e - m| * 2 ^ e := by rw [abs_mul, abs_of_pos hpos]

/-- No multiple of the power of two is nearer than the one with the rounded mantissa. -/
theorem nearest_multiple (hm : RoundsTo (q / 2 ^ e) mantissa) (factor : ℤ) :
    |q - magnitude mantissa e| ≤ |q - factor * 2 ^ e| := by
  have hpos : (0 : ℚ) < 2 ^ e := zpow_pos two_pos e
  have hle := hm.le factor
  rw [Int.cast_natCast] at hle
  rw [magnitude, distance_eq, distance_eq]
  gcongr

theorem IsScale.full (hs : IsScale q e) (h : minExponent < e) : (2 : ℚ) ^ (e + 52) ≤ q :=
  hs.above.resolve_left h.ne'

/-- Among the doubles the rounded mantissa is nearest: one with a larger exponent is a multiple of
the same power of two, and one with a smaller exponent is below all mantissas of 53 bits. -/
theorem IsScale.nearest (hs : IsScale q e) (hm : RoundsTo (q / 2 ^ e) mantissa) {other : ℕ}
    {place : ℤ} (ho : InRange other place) :
    |q - magnitude mantissa e| ≤ |q - magnitude other place| := by
  rcases le_or_gt e place with hle | hlt
  · obtain ⟨steps, rfl⟩ := Int.le.dest hle
    have hother : magnitude other (e + steps) = ((other * 2 ^ steps : ℕ) : ℤ) * 2 ^ e := by
      rw [magnitude, two_pow_add]
      push_cast
      ring
    rw [hother]
    exact nearest_multiple hm _
  · have habove := hs.full (ho.low.trans_lt hlt)
    have hother : magnitude other place ≤ 2 ^ (e + 52) := by
      have hmantissa : (other : ℚ) ≤ 2 ^ (53 : ℤ) := by exact_mod_cast ho.mantissa_lt.le
      calc magnitude other place ≤ 2 ^ (53 : ℤ) * 2 ^ place := by
            unfold magnitude
            gcongr
        _ = 2 ^ (53 + place) := by rw [zpow_add₀ two_ne_zero]
        _ ≤ 2 ^ (e + 52) := zpow_le_zpow_right₀ one_le_two (by omega)
    calc |q - magnitude mantissa e| ≤ |q - 2 ^ (e + 52)| := two_pow_add e 52 ▸ nearest_multiple hm _
      _ = q - 2 ^ (e + 52) := abs_of_nonneg (by linarith)
      _ ≤ q - magnitude other place := by linarith
      _ ≤ |q - magnitude other place| := le_abs_self _

theorem IsScale.mantissa_le (hs : IsScale q e) (hm : RoundsTo (q / 2 ^ e) mantissa) :
    mantissa ≤ 2 ^ 53 := by
  have hbelow : q / 2 ^ e ≤ ((2 ^ 53 : ℕ) : ℤ) := by
    rw [div_le_iff₀ (zpow_pos two_pos e)]
    exact hs.below.le.trans_eq (two_pow_add e 53)
  exact_mod_cast hm.le_of_le hbelow

/-- A quotient that is no larger than the largest double does not round to an infinity. -/
theorem IsScale.le_maxExponent (hs : IsScale q e) (hq : q ≤ largest) : e ≤ maxExponent := by
  by_contra hlt
  have hmin : minExponent < maxExponent := by decide
  have habove := hs.full (hmin.trans (not_le.mp hlt))
  have hlargest : largest < 2 ^ (maxExponent + 53) := by
    have hpos : (0 : ℚ) < 2 ^ maxExponent := zpow_pos two_pos _
    calc largest < ((2 ^ 53 : ℕ) : ℤ) * 2 ^ maxExponent := by
          unfold largest magnitude
          gcongr
          norm_num
      _ = 2 ^ (maxExponent + 53) := (two_pow_add maxExponent 53).symm
  have hpow : (2 : ℚ) ^ (maxExponent + 53) ≤ 2 ^ (e + 52) :=
    zpow_le_zpow_right₀ one_le_two (by omega)
  linarith

theorem IsScale.carry_le (hs : IsScale q e) (hq : q ≤ largest)
    (hm : RoundsTo (q / 2 ^ e) (2 ^ 53 : ℕ)) : e + 1 ≤ maxExponent := by
  have hle := hs.le_maxExponent hq
  by_contra hlt
  obtain rfl : e = maxExponent := by omega
  have hbelow : q / 2 ^ maxExponent ≤ ((2 ^ 53 - 1 : ℕ) : ℤ) := by
    rw [div_le_iff₀ (zpow_pos two_pos _)]
    exact hq
  have := hm.le_of_le hbelow
  omega

end Scale

/-- A quotient that is no larger than the largest double goes to a double that no other one is
nearer than. -/
theorem exists_nearest (negative : Bool) (hn : 0 < num) (hd : 0 < den)
    (hq : (num : ℚ) / den ≤ largest) :
    ∃ mantissa exponent, nearest negative num den = .finite negative mantissa exponent ∧
      IsNearest (num / den) mantissa exponent := by
  have hs := isScale_exponentFor hn hd
  have hscaled : 0 < den * Nat.pow 2 (exponentFor num den).toNat :=
    Nat.mul_pos hd (Nat.two_pow_pos _)
  have hm := roundsTo_roundHalfEven (num * Nat.pow 2 (-exponentFor num den).toNat) hscaled
  rw [div_pow_eq] at hm
  unfold nearest
  dsimp only
  generalize exponentFor num den = e at *
  generalize roundHalfEven _ _ = m at *
  have hle := hs.le_maxExponent hq
  by_cases hcarry : m = Nat.pow 2 53
  · subst hcarry
    have hhigh := hs.carry_le hq hm
    refine ⟨Nat.pow 2 52, e + 1, ?_, ⟨by decide, hs.low.trans (by omega), hhigh⟩, ?_⟩
    · rw [if_pos rfl, if_pos rfl, if_neg (by omega)]
    · intro other place ho
      have heq : magnitude (Nat.pow 2 52) (e + 1) = magnitude (Nat.pow 2 53) e := by
        rw [magnitude, magnitude, zpow_add₀ two_ne_zero]
        norm_num
        ring
      rw [heq]
      exact hs.nearest hm ho
  · have hlt := hs.mantissa_le hm
    refine ⟨m, e, ?_, ⟨lt_of_le_of_ne hlt hcarry, hs.low, hle⟩, hs.nearest hm⟩
    rw [if_neg hcarry, if_neg hcarry, if_neg (by omega)]

end Nearest

theorem InRange.le_largest (h : InRange mantissa exponent) :
    magnitude mantissa exponent ≤ largest := by
  have hmantissa : (mantissa : ℚ) ≤ (2 ^ 53 - 1 : ℕ) := by
    exact_mod_cast Nat.le_sub_one_of_lt h.mantissa_lt
  exact mul_le_mul hmantissa (zpow_le_zpow_right₀ one_le_two h.high)
    (zpow_pos two_pos _).le (Nat.cast_nonneg _)

theorem largest_whole : ∃ whole : ℕ, largest = whole := by
  have hpower : (2 : ℚ) ^ maxExponent = (2 ^ maxExponent.toNat : ℕ) := by
    rw [Nat.cast_pow, ← zpow_natCast, Int.toNat_of_nonneg (by decide)]
    norm_num
  exact ⟨(2 ^ 53 - 1) * 2 ^ maxExponent.toNat, by rw [largest, magnitude, hpower, Nat.cast_mul]⟩

/-- The hundredths of a double are no more than those of the largest one, which are whole. -/
theorem InRange.cents_le (h : InRange mantissa exponent) :
    (cents mantissa exponent : ℚ) / (100 : ℕ) ≤ largest := by
  have hle := h.le_largest
  obtain ⟨whole, hwhole⟩ := largest_whole
  rw [hwhole] at hle ⊢
  have hcents : ((cents mantissa exponent : ℕ) : ℤ) ≤ ((100 * whole : ℕ) : ℤ) := by
    apply (roundsTo_cents mantissa exponent).le_of_le
    push_cast
    linarith
  rw [div_le_iff₀ (by norm_num), mul_comm]
  exact_mod_cast hcents

theorem cents_zero (exponent : ℤ) : cents 0 exponent = 0 := by
  simp [cents, fraction, roundHalfEven]

theorem hundred_distance (x : ℚ) (h : ℤ) : |100 * x - h| = 100 * |(h : ℚ) / (100 : ℕ) - x| := by
  have hscale : 100 * x - h = 100 * (x - h / (100 : ℕ)) := by
    push_cast
    ring
  rw [hscale, abs_mul, abs_sub_comm, abs_of_pos (by norm_num : (0 : ℚ) < 100)]

/-- An amount taken to the double nearest to its hundredths has the same hundredths, and is zero
just if there are none. -/
theorem exists_roundToCents (negative : Bool) {mantissa : ℕ} {exponent : ℤ}
    (h : InRange mantissa exponent) :
    ∃ rounded place, roundToCents (.finite negative mantissa exponent) =
      .finite negative rounded place ∧ cents rounded place = cents mantissa exponent ∧
        (rounded = 0 ↔ cents mantissa exponent = 0) := by
  rcases Nat.eq_zero_or_pos (cents mantissa exponent) with hzero | hpos
  · refine ⟨0, -59, ?_, ?_, ?_⟩
    · rw [roundToCents, hzero]
      rfl
    · rw [hzero]
      decide
    · simp [hzero]
  · have hcents := roundsTo_cents mantissa exponent
    obtain ⟨m, e, heq, hm⟩ := exists_nearest negative hpos (by decide : 0 < 100) h.cents_le
    have hkeep : cents m e = cents mantissa exponent := by
      have hnear : |100 * magnitude m e - (cents mantissa exponent : ℤ)| ≤
          |100 * magnitude mantissa exponent - (cents mantissa exponent : ℤ)| := by
        rw [hundred_distance, hundred_distance]
        exact mul_le_mul_of_nonneg_left (hm.nearest h) (by norm_num)
      exact_mod_cast (roundsTo_cents m e).unique (hcents.of_nearer hnear)
    refine ⟨m, e, heq, hkeep, ?_⟩
    constructor
    · rintro rfl
      rw [← hkeep, cents_zero]
    · omega

end LedgerQuery.Decimal.Binary64

namespace LedgerQuery.Decimal

/-! ## Amounts with two decimal places

The text of some hundredths denotes just these hundredths, and with commas its units are in groups
of three, which are the same digits. -/

open Text

/-- Digits, a point and digits stand for a rational, with a minus in front for its negative. -/
inductive Denotes : List Char → ℚ → Prop where
  | unsigned {units places : List Char} (some : units ≠ [])
      (digits : ∀ c ∈ units ++ places, isAsciiDigit c = true) :
      Denotes (units ++ '.' :: places) (value units + value places / 10 ^ places.length)
  | negative {units places : List Char} (some : units ≠ [])
      (digits : ∀ c ∈ units ++ places, isAsciiDigit c = true) :
      Denotes ('-' :: (units ++ '.' :: places)) (-(value units + value places / 10 ^ places.length))

/-- Digits in groups of three, of which the first may be shorter. -/
structure IsGrouped (first : List Char) (rest : List (List Char)) : Prop where
  some : first ≠ []
  short : first.length ≤ 3
  full : ∀ group ∈ rest, group.length = 3
  digits : ∀ group ∈ first :: rest, ∀ c ∈ group, isAsciiDigit c = true

theorem length_flatten_of_full {groups : List (List Char)}
    (h : ∀ group ∈ groups, group.length = 3) :
    groups.flatten.length = 3 * groups.length := by
  rw [List.length_flatten, List.map_congr_left h]
  simp [Nat.mul_comm]

theorem exists_groupThrees {text : List Char} (hne : text ≠ [])
    (hdigits : ∀ c ∈ text, isAsciiDigit c = true) :
    ∃ first rest, groupThrees text = joinWith [','] (first :: rest) ∧
      first ++ rest.flatten = text ∧ IsGrouped first rest := by
  induction text with
  | nil => exact absurd rfl hne
  | cons c cs ih =>
    have hc : isAsciiDigit c = true := hdigits c List.mem_cons_self
    by_cases hcs : cs = []
    · subst hcs
      exact ⟨[c], [], rfl, rfl, by simp, by simp, by simp, by simp [hc]⟩
    obtain ⟨first, rest, heq, htext, hg⟩ := ih hcs fun d hd => hdigits d (List.mem_cons_of_mem c hd)
    have hlength : cs.length = first.length + 3 * rest.length := by
      rw [← htext, List.length_append, length_flatten_of_full hg.full]
    have hpos : 0 < first.length := List.length_pos_of_ne_nil hg.some
    have hshort := hg.short
    by_cases hthree : cs.length % 3 = 0
    · -- the groups so far are full, so the digit begins a group of its own
      have hfirst : first.length = 3 := by omega
      refine ⟨[c], first :: rest, ?_, ?_, by simp, by simp, ?_, ?_⟩
      · simp [groupThrees, hthree, hcs, heq, joinWith]
      · simp [← htext]
      · exact List.forall_mem_cons.mpr ⟨hfirst, hg.full⟩
      · exact List.forall_mem_cons.mpr ⟨by simp [hc], hg.digits⟩
    · refine ⟨c :: first, rest, ?_, ?_, by simp, ?_, hg.full, ?_⟩
      · simp [groupThrees, hthree, heq, joinWith_cons]
      · simp [← htext]
      · rw [List.length_cons]
        omega
      · obtain ⟨hfirst, hrest⟩ := List.forall_mem_cons.mp hg.digits
        exact List.forall_mem_cons.mpr ⟨List.forall_mem_cons.mpr ⟨hc, hfirst⟩, hrest⟩

theorem filter_groupThrees {keep : Char → Bool} (hcomma : keep ',' = false) {text : List Char}
    (h : ∀ c ∈ text, keep c = true) : (groupThrees text).filter keep = text := by
  induction text with
  | nil => rfl
  | cons c cs ih =>
    have hc : keep c = true := h c List.mem_cons_self
    have hcs := ih fun d hd => h d (List.mem_cons_of_mem c hd)
    rw [groupThrees]
    split
    · simp [hc, hcomma, hcs]
    · simp [hc, hcs]

theorem mem_groupThrees {text : List Char} {c : Char} (h : c ∈ groupThrees text) :
    c ∈ text ∨ c = ',' := by
  induction text with
  | nil => cases h
  | cons d ds ih =>
    rw [groupThrees] at h
    split at h
    · simp only [List.mem_cons] at h ⊢
      tauto
    · simp only [List.mem_cons] at h ⊢
      tauto

section Cents
variable (hundredths : ℕ)

theorem mem_centsText {grouped : Bool} {c : Char} (h : c ∈ centsText grouped hundredths) :
    isAsciiDigit c = true ∨ c = '.' ∨ grouped = true ∧ c = ',' := by
  rcases List.mem_append.mp h with h | h
  · cases grouped with
    | false => exact .inl (isAsciiDigit_of_mem_digits h)
    | true =>
      rcases mem_groupThrees h with h | h
      · exact .inl (isAsciiDigit_of_mem_digits h)
      · exact .inr (.inr ⟨rfl, h⟩)
  · rcases List.mem_cons.mp h with h | h
    · exact .inr (.inl h)
    · exact .inl (isAsciiDigit_of_mem_padded h)

theorem le_of_mem_centsText {grouped : Bool} {c : Char} (h : c ∈ centsText grouped hundredths) :
    32 ≤ c.toNat := by
  rcases mem_centsText hundredths h with h | rfl | ⟨-, rfl⟩
  · exact le_of_isAsciiDigit h
  · decide
  · decide

theorem centsText_rational :
    (value (digits (hundredths / 100)) : ℚ) + value (padded 2 (hundredths % 100)) /
      10 ^ (padded 2 (hundredths % 100)).length = hundredths / 100 := by
  have hsplit : (hundredths : ℚ) = 100 * (hundredths / 100 : ℕ) + (hundredths % 100 : ℕ) := by
    exact_mod_cast (Nat.div_add_mod hundredths 100).symm
  have hplaces : hundredths % 100 < 10 ^ 2 := Nat.mod_lt _ (by decide)
  rw [value_digits, value_padded, length_padded (by decide) hplaces]
  linarith

theorem isAsciiDigit_of_mem_places : ∀ c ∈ digits (hundredths / 100) ++
    padded 2 (hundredths % 100), isAsciiDigit c = true := by
  intro c hc
  rcases List.mem_append.mp hc with h | h
  · exact isAsciiDigit_of_mem_digits h
  · exact isAsciiDigit_of_mem_padded h

theorem denotes_centsText : Denotes (centsText false hundredths) (hundredths / 100) := by
  rw [← centsText_rational]
  exact .unsigned (digits_ne_nil _) (isAsciiDigit_of_mem_places hundredths)

theorem denotes_neg_centsText :
    Denotes ('-' :: centsText false hundredths) (-(hundredths / 100)) := by
  rw [← centsText_rational]
  exact .negative (digits_ne_nil _) (isAsciiDigit_of_mem_places hundredths)

theorem exists_grouped_centsText : ∃ first rest places,
    centsText true hundredths = joinWith [','] (first :: rest) ++ '.' :: places ∧
      IsGrouped first rest ∧ places.length = 2 := by
  obtain ⟨first, rest, heq, -, hg⟩ := exists_groupThrees (digits_ne_nil (hundredths / 100))
    fun _ => isAsciiDigit_of_mem_digits
  have hplaces : hundredths % 100 < 10 ^ 2 := Nat.mod_lt _ (by decide)
  exact ⟨first, rest, padded 2 (hundredths % 100), by rw [← heq]; rfl, hg,
    length_padded (by decide) hplaces⟩

variable {hundredths}

theorem filter_centsText {keep : Char → Bool} (hcomma : keep ',' = false)
    (hpoint : keep '.' = true) (hdigit : ∀ c, isAsciiDigit c = true → keep c = true) :
    (centsText true hundredths).filter keep = centsText false hundredths := by
  have hunits : (groupThrees (digits (hundredths / 100))).filter keep = digits (hundredths / 100) :=
    filter_groupThrees hcomma fun c hc => hdigit c (isAsciiDigit_of_mem_digits hc)
  have hplaces : (padded 2 (hundredths % 100)).filter keep = padded 2 (hundredths % 100) :=
    List.filter_eq_self.mpr fun c hc => hdigit c (isAsciiDigit_of_mem_padded hc)
  simp [centsText, hunits, hpoint, hplaces]

theorem centsText_injective {other : ℕ}
    (h : centsText false hundredths = centsText false other) : hundredths = other := by
  have hlength (n : ℕ) : (padded 2 (n % 100)).length = 2 :=
    length_padded (by decide) (Nat.mod_lt n (by decide : 0 < 10 ^ 2))
  have hparts := List.append_inj' h (by simp [hlength])
  have hunits : hundredths / 100 = other / 100 := by
    rw [← value_digits (hundredths / 100), ← value_digits (other / 100)]
    exact congrArg value hparts.1
  have hplaces : hundredths % 100 = other % 100 := by
    rw [← value_padded 2 (hundredths % 100), ← value_padded 2 (other % 100)]
    exact congrArg value (List.cons.inj hparts.2).2
  omega

end Cents

theorem le_of_mem_twoPlaces {x : Binary64} : ∀ c ∈ twoPlaces x, 32 ≤ c.toNat := by
  have hword {text : List Char} (h : text.all (32 ≤ ·.toNat) = true) :
      ∀ c ∈ text, 32 ≤ c.toNat := by
    simpa using h
  cases x with
  | nan => exact hword (by decide)
  | infinite negative => cases negative <;> exact hword (by decide)
  | finite negative mantissa exponent =>
    intro c hc
    rcases List.mem_append.mp hc with h | h
    · cases negative with
      | false => cases h
      | true => exact hword (by decide) c h
    · exact le_of_mem_centsText _ h

end LedgerQuery.Decimal
