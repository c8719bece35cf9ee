import SqlInventory.Number.Double
import Mathlib.Algebra.Order.Field.Power
import Mathlib.Algebra.Order.Floor.Semiring
import Mathlib.Data.Int.Log
import Mathlib.Data.Rat.Floor
import Mathlib.Tactic.FieldSimp
import Mathlib.Tactic.Linarith
import Mathlib.Tactic.NormNum
import Mathlib.Tactic.Positivity
import Mathlib.Tactic.Ring

/-!
# Rounding to double precision

The number nearest to a quotient is worked out with natural numbers alone. Here it is related to the
rational number that the quotient denotes:

* `nearest_eq_of_abs_lt`: a natural number within less than a half is the nearest one;
* `lastPlace_eq`: the exponent of the last place is that of the first place less 52, and never below
  -1074;
* `ofQuotient_congr`: so rounding depends on the rational number only, not on its terms;
* `ofQuotient_of_near`: what lies as near to a number of double precision as seventeen decimal
  digits come is rounded to that number. Half a unit in the last place would do, except below a
  power of two, where the numbers stand twice as close; `ofQuotient_of_near` covers both.
-/

namespace SqlInventory

/-- A quotient whose terms are multiplied by the parts of a power is multiplied by the power. -/
theorem cast_scaled_div {b : ℕ} (hb : 0 < b) (numerator denominator : ℕ) (k : ℤ) :
    ((numerator * Nat.pow b k.toNat : ℕ) : ℚ) / (denominator * Nat.pow b (-k).toNat : ℕ) =
      (numerator : ℚ) / denominator * (b : ℚ) ^ k := by
  have hbase : (b : ℚ) ≠ 0 := by positivity
  rw [Nat.pow_eq, Nat.pow_eq]
  push_cast
  rcases le_total 0 k with hk | hk
  · obtain ⟨n, rfl⟩ := Int.eq_ofNat_of_zero_le hk
    rw [Int.toNat_natCast, Int.toNat_of_nonpos (by omega), pow_zero, mul_one, zpow_natCast]
    ring
  · obtain ⟨n, hn⟩ := Int.eq_ofNat_of_zero_le (Int.neg_nonneg_of_nonpos hk)
    obtain rfl : k = -(n : ℤ) := by omega
    rw [neg_neg, Int.toNat_natCast, Int.toNat_of_nonpos (by omega), pow_zero, mul_one, zpow_neg,
      zpow_natCast]
    field_simp

/-- The rational number that a natural number times a power is. -/
theorem cast_power_div {b : ℕ} (hb : 0 < b) (n : ℕ) (k : ℤ) :
    ((n * Nat.pow b k.toNat : ℕ) : ℚ) / (Nat.pow b (-k).toNat : ℕ) = n * (b : ℚ) ^ k := by
  have hscaled := cast_scaled_div hb n 1 k
  rwa [one_mul, Nat.cast_one, div_one] at hscaled

namespace Double

/-! ### Nearest natural numbers -/

theorem nearest_mul_right (a b : ℕ) {m : ℕ} (hm : 0 < m) :
    nearest (a * m) (b * m) = nearest a b := by
  have hless : 2 * (a % b * m) < b * m ↔ 2 * (a % b) < b := by
    rw [← mul_assoc]
    exact Nat.mul_lt_mul_right hm
  have hsame : 2 * (a % b * m) = b * m ↔ 2 * (a % b) = b := by
    rw [← mul_assoc]
    exact Nat.mul_left_inj hm.ne'
  simp only [nearest, Nat.mul_div_mul_right a b hm, Nat.mul_mod_mul_right, hless, hsame]

/-- The nearest number depends on the quotient only. -/
theorem nearest_congr {a b c d : ℕ} (hb : 0 < b) (hd : 0 < d) (h : a * d = c * b) :
    nearest a b = nearest c d := by
  calc
    nearest a b = nearest (a * d) (b * d) := (nearest_mul_right a b hd).symm
    _ = nearest (c * b) (d * b) := by rw [h, mul_comm b d]
    _ = nearest c d := nearest_mul_right c d hb

/-- The nearest number is the quotient rounded down or up, and off by a half at most. -/
theorem abs_nearest_sub_le (a : ℕ) {b : ℕ} (hb : 0 < b) :
    |(nearest a b : ℚ) - (a : ℚ) / b| ≤ 1 / 2 := by
  have hpos : (0 : ℚ) < b := by exact_mod_cast hb
  have hdivision : (b : ℚ) * (a / b : ℕ) + (a % b : ℕ) = a := by
    exact_mod_cast Nat.div_add_mod a b
  have hquotient : (a : ℚ) / b = (a / b : ℕ) + (a % b : ℕ) / (b : ℚ) := by
    rw [← hdivision]
    field_simp
  have hnonneg : (0 : ℚ) ≤ (a % b : ℕ) / (b : ℚ) := by positivity
  have hless : ((a % b : ℕ) : ℚ) / b < 1 := by
    rw [div_lt_one hpos]
    exact_mod_cast Nat.mod_lt a hb
  simp only [nearest, Bool.or_eq_true, decide_eq_true_eq, Bool.and_eq_true]
  rw [hquotient, abs_le]
  split
  · next hdown =>
    have hhalf : ((a % b : ℕ) : ℚ) / b ≤ 1 / 2 := by
      rw [div_le_iff₀ hpos]
      have htwice : 2 * (a % b) ≤ b := by omega
      have hcast : (2 : ℚ) * (a % b : ℕ) ≤ b := by exact_mod_cast htwice
      linarith
    constructor <;> linarith
  · next hup =>
    have hhalf : 1 / 2 ≤ ((a % b : ℕ) : ℚ) / b := by
      rw [le_div_iff₀ hpos]
      have htwice : b ≤ 2 * (a % b) := by omega
      have hcast : (b : ℚ) ≤ 2 * (a % b : ℕ) := by exact_mod_cast htwice
      linarith
    push_cast
    constructor <;> linarith

/-- A number within less than a half of the quotient is the nearest one. -/
theorem nearest_eq_of_abs_lt {a b n : ℕ} (hb : 0 < b) (h : |(a : ℚ) / b - n| < 1 / 2) :
    nearest a b = n := by
  have hnearest := abs_nearest_sub_le a hb
  -- Two natural numbers within a half of the quotient, one of them strictly, are equal.
  have hapart : |((nearest a b : ℤ) : ℚ) - (n : ℤ)| < 1 := by
    have htriangle := abs_sub_le (nearest a b : ℚ) ((a : ℚ) / b) n
    push_cast
    linarith
  have hzero : |(nearest a b : ℤ) - n| < 1 := by exact_mod_cast hapart
  have heq := Int.abs_lt_one_iff.mp hzero
  omega

/-! ### The last place -/

/-- The powers around a number tell the exponent of its first place. -/
theorem log_eq_of_bounds {b : ℕ} (hb : 1 < b) {x : ℚ} (hx : 0 < x) {k : ℤ} (hlow : (b : ℚ) ^ k ≤ x)
    (hhigh : x < (b : ℚ) ^ (k + 1)) : Int.log b x = k := by
  have hle := (Int.zpow_le_iff_le_log hb hx).mp hlow
  have hlt := (Int.lt_zpow_iff_log_lt hb hx).mp hhigh
  omega

/-- The lengths of its terms bound a quotient from both sides. -/
theorem quotient_bounds {a b : ℕ} (ha : 0 < a) (hb : 0 < b) :
    (2 : ℚ) ^ ((a.log2 : ℤ) - b.log2 - 1) ≤ (a : ℚ) / b ∧
      (a : ℚ) / b < 2 ^ ((a.log2 : ℤ) - b.log2 + 1) := by
  have hpos : (0 : ℚ) < b := by exact_mod_cast hb
  have hbounds : ∀ {n : ℕ}, 0 < n →
      (2 : ℚ) ^ (n.log2 : ℤ) ≤ n ∧ (n : ℚ) ≤ 2 ^ ((n.log2 : ℤ) + 1) ∧
        (n : ℚ) < 2 ^ ((n.log2 : ℤ) + 1) := by
    intro n hn
    have hlow : 2 ^ n.log2 ≤ n := Nat.log2_self_le hn.ne'
    have hhigh : n < 2 ^ (n.log2 + 1) := Nat.lt_log2_self
    have hcast : (n : ℚ) < 2 ^ ((n.log2 : ℤ) + 1) := by exact_mod_cast hhigh
    exact ⟨by exact_mod_cast hlow, hcast.le, hcast⟩
  obtain ⟨halow, -, hahigh⟩ := hbounds ha
  obtain ⟨hblow, hbhigh, -⟩ := hbounds hb
  constructor
  · rw [le_div_iff₀ hpos]
    calc
      (2 : ℚ) ^ ((a.log2 : ℤ) - b.log2 - 1) * b
        ≤ 2 ^ ((a.log2 : ℤ) - b.log2 - 1) * 2 ^ ((b.log2 : ℤ) + 1) :=
          mul_le_mul_of_nonneg_left hbhigh (zpow_nonneg (by norm_num) _)
      _ = 2 ^ (a.log2 : ℤ) := by
          rw [← zpow_add₀ two_ne_zero]
          congr 1
          ring
      _ ≤ a := halow
  · rw [div_lt_iff₀ hpos]
    calc
      (a : ℚ) < 2 ^ ((a.log2 : ℤ) + 1) := hahigh
      _ = 2 ^ ((a.log2 : ℤ) - b.log2 + 1) * 2 ^ (b.log2 : ℤ) := by
          rw [← zpow_add₀ two_ne_zero]
          congr 1
          ring
      _ ≤ 2 ^ ((a.log2 : ℤ) - b.log2 + 1) * b :=
          mul_le_mul_of_nonneg_left hblow (zpow_nonneg (by norm_num) _)

/-- A quotient is compared with a power by products of natural numbers. -/
theorem scaled_lt_scaled_iff {a b : ℕ} (hb : 0 < b) (k : ℤ) :
    a * Nat.pow 2 (-k).toNat < b * Nat.pow 2 k.toNat ↔ (a : ℚ) / b < 2 ^ k := by
  have hpos : (0 : ℚ) < (b * Nat.pow 2 k.toNat : ℕ) := by
    exact_mod_cast Nat.mul_pos hb (Nat.pow_pos (by decide))
  have hscaled := cast_scaled_div (b := 2) (by decide) a b (-k)
  rw [neg_neg] at hscaled
  calc
    a * Nat.pow 2 (-k).toNat < b * Nat.pow 2 k.toNat
      ↔ ((a * Nat.pow 2 (-k).toNat : ℕ) : ℚ) / (b * Nat.pow 2 k.toNat : ℕ) < 1 := by
        rw [div_lt_one hpos, Nat.cast_lt]
    _ ↔ (a : ℚ) / b * (2 ^ k)⁻¹ < 1 := by
        rw [hscaled, Nat.cast_ofNat, zpow_neg]
    _ ↔ (a : ℚ) / b < 2 ^ k := by
        rw [← div_eq_mul_inv, div_lt_one (zpow_pos (by norm_num) k)]

/-- The exponent of the last place is that of the first place less 52, and never below -1074. -/
theorem lastPlace_eq {a b : ℕ} (ha : 0 < a) (hb : 0 < b) :
    lastPlace a b = max (Int.log 2 ((a : ℚ) / b) - 52) (-1074) := by
  have hpos : (0 : ℚ) < (a : ℚ) / b := by positivity
  obtain ⟨hbelow, habove⟩ := quotient_bounds ha hb
  simp only [lastPlace, scaled_lt_scaled_iff hb]
  split
  · next hless =>
    rw [log_eq_of_bounds (b := 2) (by decide) hpos hbelow (by rwa [sub_add_cancel])]
  · next hmore =>
    rw [log_eq_of_bounds (b := 2) (by decide) hpos (not_lt.mp hmore) habove]

/-! ### Quotients -/

/-- The rounded significand of a quotient at a place. -/
theorem nearest_scaled_congr {a b c d : ℕ} (hb : 0 < b) (hd : 0 < d) (h : (a : ℚ) / b = c / d)
    (p q : ℕ) : nearest (a * Nat.pow 2 p) (b * Nat.pow 2 q) =
      nearest (c * Nat.pow 2 p) (d * Nat.pow 2 q) := by
  have hcross : a * d = c * b := by
    have hcast := (div_eq_div_iff (by positivity : (b : ℚ) ≠ 0) (by positivity : (d : ℚ) ≠ 0)).mp h
    exact_mod_cast hcast
  have hpower : ∀ n, 0 < Nat.pow 2 n := fun n => Nat.pow_pos (by decide)
  refine nearest_congr (Nat.mul_pos hb (hpower q)) (Nat.mul_pos hd (hpower q)) ?_
  calc
    a * Nat.pow 2 p * (d * Nat.pow 2 q) = a * d * (Nat.pow 2 p * Nat.pow 2 q) := by ring
    _ = c * b * (Nat.pow 2 p * Nat.pow 2 q) := by rw [hcross]
    _ = c * Nat.pow 2 p * (b * Nat.pow 2 q) := by ring

/-- **Rounding depends on the rational number only.** -/
theorem ofQuotient_congr {a b c d : ℕ} (hb : 0 < b) (hd : 0 < d) (h : (a : ℚ) / b = c / d)
    (negative : Bool) : ofQuotient negative a b = ofQuotient negative c d := by
  have hzero : a = 0 ↔ c = 0 := by
    have hbq : (b : ℚ) ≠ 0 := by positivity
    have hdq : (d : ℚ) ≠ 0 := by positivity
    constructor
    · rintro rfl
      simpa [hdq] using h.symm
    · rintro rfl
      simpa [hbq] using h
  by_cases ha : a = 0
  · rw [ha, hzero.mp ha, ofQuotient, ofQuotient, if_pos rfl, if_pos rfl]
  · have hc : c ≠ 0 := fun hc => ha (hzero.mpr hc)
    have hplace : lastPlace a b = lastPlace c d := by
      rw [lastPlace_eq (Nat.pos_of_ne_zero ha) hb, lastPlace_eq (Nat.pos_of_ne_zero hc) hd, h]
    simp only [ofQuotient, if_neg ha, if_neg hc, hplace, nearest_scaled_congr hb hd h]

/-- A significand and an exponent that a finite number other than zero has: the significand fills
its 53 places, or there is no lower exponent. -/
structure IsPlaced (significand : ℕ) (exponent : ℤ) : Prop where
  /-- The number is not zero. -/
  pos : 0 < significand
  /-- There are 53 places. -/
  fits : significand < 2 ^ 53
  /-- The first place is used if it can be. -/
  filled : 2 ^ 52 ≤ significand ∨ exponent = -1074
  /-- The lowest exponent. -/
  lowest : -1074 ≤ exponent
  /-- The highest exponent. -/
  highest : exponent ≤ 971

/-- The place of a quotient that is counted in units of a place and fills it. -/
theorem lastPlace_of_bounds {a b : ℕ} (ha : 0 < a) (hb : 0 < b) {t : ℚ} {place : ℤ}
    (ht : (a : ℚ) / b = t * 2 ^ place) (hless : t < 2 ^ 53)
    (hfilled : 2 ^ 52 ≤ t ∨ place = -1074) (hlowest : -1074 ≤ place) : lastPlace a b = place := by
  have hunit : (0 : ℚ) < 2 ^ place := zpow_pos (by norm_num) place
  have hpos : (0 : ℚ) < (a : ℚ) / b := by positivity
  have hshift : ∀ n : ℕ, (2 : ℚ) ^ (n + place) = 2 ^ n * 2 ^ place := by
    intro n
    rw [zpow_add₀ two_ne_zero, zpow_natCast]
  have hhigh : Int.log 2 ((a : ℚ) / b) < 53 + place := by
    refine (Int.lt_zpow_iff_log_lt (by decide) hpos).mp ?_
    rw [ht]
    exact (mul_lt_mul_of_pos_right hless hunit).trans_eq (hshift 53).symm
  rw [lastPlace_eq ha hb]
  rcases hfilled with hfull | hbottom
  · have hlow : 52 + place ≤ Int.log 2 ((a : ℚ) / b) := by
      refine (Int.zpow_le_iff_le_log (by decide) hpos).mp ?_
      rw [ht]
      exact (hshift 52).trans_le (mul_le_mul_of_nonneg_right hfull hunit.le)
    omega
  · omega

/-- Rounding at a place that is known. -/
theorem nearest_at_place {a b n : ℕ} (hb : 0 < b) {t : ℚ} {place : ℤ}
    (ht : (a : ℚ) / b = t * 2 ^ place) (hnear : |t - n| < 1 / 2) :
    nearest (a * Nat.pow 2 (-place).toNat) (b * Nat.pow 2 place.toNat) = n := by
  have hscaled := cast_scaled_div (b := 2) (by decide) a b (-place)
  rw [neg_neg, Nat.cast_ofNat, ht, mul_assoc, ← zpow_add₀ two_ne_zero, add_neg_cancel, zpow_zero,
    mul_one] at hscaled
  refine nearest_eq_of_abs_lt (Nat.mul_pos hb (Nat.pow_pos (by decide))) ?_
  rw [hscaled]
  exact hnear

/-- **What is as near as seventeen digits come is rounded to the number.** -/
theorem ofQuotient_of_near {a b significand : ℕ} {exponent : ℤ} (hb : 0 < b)
    (h : IsPlaced significand exponent)
    (hnear : |(a : ℚ) / b - significand * 2 ^ exponent| * (2 * 10 ^ 16) ≤
      significand * 2 ^ exponent) (negative : Bool) :
    ofQuotient negative a b = .finite negative significand exponent := by
  have hunit : (0 : ℚ) < 2 ^ exponent := zpow_pos (by norm_num) exponent
  have hspos : (1 : ℚ) ≤ significand := by exact_mod_cast h.pos
  have hsfits : (significand : ℚ) + 1 ≤ 2 ^ 53 := by exact_mod_cast h.fits
  -- `t` is the quotient counted in units of the last place.
  obtain ⟨t, ht⟩ : ∃ t : ℚ, (a : ℚ) / b = t * 2 ^ exponent :=
    ⟨(a : ℚ) / b / 2 ^ exponent, (div_mul_cancel₀ _ hunit.ne').symm⟩
  have hcount : |t - significand| * (2 * 10 ^ 16) ≤ significand := by
    rw [ht, ← sub_mul, abs_mul, abs_of_pos hunit] at hnear
    refine le_of_mul_le_mul_right ?_ hunit
    linarith
  have hhalf : |t - significand| < 1 / 2 := by linarith
  obtain ⟨hlow, hhigh⟩ := abs_lt.mp hhalf
  have ha : 0 < a := by
    have hpos : (0 : ℚ) < (a : ℚ) / b := by
      rw [ht]
      exact mul_pos (by linarith) hunit
    by_contra hzero
    rw [Nat.eq_zero_of_not_pos hzero, Nat.cast_zero, zero_div] at hpos
    exact lt_irrefl _ hpos
  by_cases hfull : 2 ^ 52 ≤ t ∨ exponent = -1074
  · -- The quotient has the place of the number, so the significand is the nearest one.
    have hplace := lastPlace_of_bounds ha hb ht (by linarith) hfull h.lowest
    have hround := nearest_at_place hb ht hhalf
    have hnotFull : significand ≠ Nat.pow 2 53 := h.fits.ne
    have hfinite : ¬971 < exponent := not_lt.mpr h.highest
    simp only [ofQuotient, if_neg ha.ne', hplace, hround, if_neg hnotFull, if_neg h.pos.ne',
      if_neg hfinite]
  · -- The quotient is just below a power of two, where the places are half as large. It is rounded
    -- up to the power.
    rw [not_or, not_le] at hfull
    obtain ⟨hbelow, hbottom⟩ := hfull
    obtain rfl : significand = 2 ^ 52 := by
      refine le_antisymm ?_ (h.filled.resolve_right hbottom)
      have hcast : (significand : ℚ) < 2 ^ 52 + 1 := by linarith
      have hlt : significand < 2 ^ 52 + 1 := by exact_mod_cast hcast
      omega
    have htwice : (a : ℚ) / b = 2 * t * 2 ^ (exponent - 1) := by
      rw [ht, zpow_sub_one₀ two_ne_zero]
      ring
    push_cast at hcount hlow
    have hquarter : |2 * t - (2 ^ 53 : ℕ)| < 1 / 2 := by
      have hdouble : 2 * t - (2 ^ 53 : ℕ) = 2 * (t - 2 ^ 52) := by
        push_cast
        ring
      rw [hdouble, abs_mul, abs_of_pos (by norm_num : (0 : ℚ) < 2)]
      linarith
    have hplace := lastPlace_of_bounds ha hb htwice (by linarith) (Or.inl (by linarith))
      (by have := h.lowest; omega)
    have hround : nearest (a * Nat.pow 2 (-(exponent - 1)).toNat)
        (b * Nat.pow 2 (exponent - 1).toNat) = Nat.pow 2 53 := nearest_at_place hb htwice hquarter
    have hpower : Nat.pow 2 52 ≠ 0 := (Nat.pow_pos (by decide)).ne'
    have hfinite : ¬971 < exponent := not_lt.mpr h.highest
    simp only [ofQuotient, if_neg ha.ne', hplace, hround, if_true, sub_add_cancel, if_neg hpower,
      if_neg hfinite]
    rfl

end Double

end SqlInventory
