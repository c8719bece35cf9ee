import SqlInventory.Number.Shortest
import SqlInventory.Proofs.Number.Rounding
import SqlInventory.Proofs.Text.Essence
import SqlInventory.Proofs.Text.Numerals
import Mathlib.Tactic.IntervalCases

/-!
# Shortest decimals read back

A number is written with digits that were tried: the reader was asked whether they give the number.
So what has to be shown is that some trial succeeds, and that the written form denotes the decimal
that was tried, although zeros at its end are left out.

* `ofDecimal_mul_pow`: zeros at the end of a coefficient may be counted in the exponent;
* `digitsBeforePoint_bounds`: the digits before the point give the power of ten below a number and
  the one above it;
* `isSome_decimalOfLength?_seventeen`: with seventeen digits the nearest decimal reads back, as it
  is off by at most one part in 2 * 10 ^ 16;
* `rounded_shortest`: so the digits that are written denote the number.
-/

namespace SqlInventory

/-! ### Decimals -/

theorem length_toDigits_mul_pow {c : ℕ} (hc : 0 < c) (k : ℕ) :
    (Nat.toDigits 10 (c * 10 ^ k)).length = (Nat.toDigits 10 c).length + k := by
  induction k with
  | zero => rw [pow_zero, mul_one, add_zero]
  | succ k ih =>
    have hstep : c * 10 ^ (k + 1) = 10 * (c * 10 ^ k) + 0 := by ring
    rw [hstep, ← Nat.toDigits_append_toDigits (by decide) (by positivity) (by decide),
      List.length_append, ih]
    rfl

namespace Double

/-- Zeros at the end of the coefficient may be counted in the exponent. -/
theorem ofDecimal_mul_pow (negative : Bool) (c k : ℕ) (e : ℤ) :
    ofDecimal negative (c * 10 ^ k) e = ofDecimal negative c (e + k) := by
  rcases Nat.eq_zero_or_pos c with rfl | hc
  · rw [zero_mul, ofDecimal, ofDecimal]
    rfl
  · have hmagnitude : ((Nat.toDigits 10 (c * 10 ^ k)).length : ℤ) + e =
        (Nat.toDigits 10 c).length + (e + k) := by
      rw [length_toDigits_mul_pow hc]
      push_cast
      ring
    have hpower : ∀ n, 0 < Nat.pow 10 n := fun n => Nat.pow_pos (by decide)
    have hquotient : ofQuotient negative (c * 10 ^ k * Nat.pow 10 e.toNat)
        (Nat.pow 10 (-e).toNat) = ofQuotient negative (c * Nat.pow 10 (e + k).toNat)
          (Nat.pow 10 (-(e + k)).toNat) := by
      refine ofQuotient_congr (hpower _) (hpower _) ?_ negative
      rw [cast_power_div (by decide), cast_power_div (by decide), Nat.cast_ofNat,
        zpow_add₀ (by norm_num), zpow_natCast]
      push_cast
      ring
    have hzero : c * 10 ^ k = 0 ↔ c = 0 := by simp
    simp only [ofDecimal, hmagnitude, hquotient, hzero]

/-- Decimals within range are rounded as quotients. -/
theorem ofDecimal_eq_ofQuotient {c : ℕ} (hc : 0 < c) {e : ℤ}
    (hlow : -330 ≤ (Nat.toDigits 10 c).length + e) (hhigh : (Nat.toDigits 10 c).length + e ≤ 310)
    (negative : Bool) : ofDecimal negative c e =
      ofQuotient negative (c * Nat.pow 10 e.toNat) (Nat.pow 10 (-e).toNat) := by
  have hsmall : ¬(decide (c = 0) || decide ((Nat.toDigits 10 c).length + e < -330)) = true := by
    simp only [Bool.or_eq_true, decide_eq_true_eq, not_or, not_lt]
    exact ⟨hc.ne', hlow⟩
  simp only [ofDecimal]
  rw [if_neg hsmall, if_neg (not_lt.mpr hhigh)]

/-! ### Digits before the point -/

/-- A natural number is bounded by powers of ten whose exponents count its digits. -/
theorem toDigits_bounds {n : ℕ} (hn : 0 < n) :
    10 ^ ((Nat.toDigits 10 n).length - 1) ≤ n ∧ n < 10 ^ (Nat.toDigits 10 n).length := by
  have hlength : 0 < (Nat.toDigits 10 n).length := Nat.length_toDigits_pos
  refine ⟨?_, (Nat.length_toDigits_le_iff (by decide) hlength).mp le_rfl⟩
  by_contra hless
  rcases Nat.eq_zero_or_pos ((Nat.toDigits 10 n).length - 1) with hone | hmore
  · rw [hone] at hless
    omega
  · have hle := (Nat.length_toDigits_le_iff (by decide) hmore).mpr (not_le.mp hless)
    omega

/-- The digits before the point give the powers of ten below and above a quotient. -/
theorem digitsBeforePoint_bounds {a b : ℕ} (hb : 0 < b)
    (hfar : ∃ n < 400, b ≤ a * 10 ^ (n + 1)) :
    (10 : ℚ) ^ (digitsBeforePoint a b - 1) ≤ (a : ℚ) / b ∧
      (a : ℚ) / b < 10 ^ digitsBeforePoint a b := by
  have hpos : (0 : ℚ) < b := by exact_mod_cast hb
  by_cases hwhole : b ≤ a
  · -- The digits of the whole part.
    have hquotient : 0 < a / b := Nat.div_pos hwhole hb
    obtain ⟨hlow, hhigh⟩ := toDigits_bounds hquotient
    have hlength : 0 < (Nat.toDigits 10 (a / b)).length := Nat.length_toDigits_pos
    rw [digitsBeforePoint, if_pos hwhole]
    obtain ⟨n, hn⟩ : ∃ n, (Nat.toDigits 10 (a / b)).length = n + 1 :=
      ⟨_, (Nat.sub_add_cancel hlength).symm⟩
    rw [hn] at hlow hhigh ⊢
    constructor
    · rw [le_div_iff₀ hpos]
      have hle : 10 ^ n * b ≤ a := (Nat.le_div_iff_mul_le hb).mp hlow
      push_cast
      rw [add_sub_cancel_right, zpow_natCast]
      exact_mod_cast hle
    · rw [div_lt_iff₀ hpos]
      have hlt : a < 10 ^ (n + 1) * b := (Nat.div_lt_iff_lt_mul hb).mp hhigh
      exact_mod_cast hlt
  · -- The zeros behind the point: the search stops at the first power that is large enough.
    obtain ⟨zeros, hfind⟩ : ∃ zeros, (List.range 400).find?
        (fun n => decide (b ≤ a * Nat.pow 10 (n + 1))) = some zeros := by
      rw [← Option.isSome_iff_exists, List.find?_isSome]
      obtain ⟨n, hn, hreached⟩ := hfar
      exact ⟨n, List.mem_range.mpr hn, decide_eq_true hreached⟩
    obtain ⟨hreached, -, hbefore⟩ := List.find?_range_eq_some.mp hfind
    have hreached := of_decide_eq_true hreached
    have hcount : digitsBeforePoint a b = -zeros := by
      rw [digitsBeforePoint, if_neg hwhole]
      simp only [hfind, Option.getD_some, zero_sub]
    have hless : a * 10 ^ zeros < b := by
      cases zeros with
      | zero =>
        rw [pow_zero, mul_one]
        exact not_le.mp hwhole
      | succ n =>
        have hnot := hbefore n (Nat.lt_succ_self n)
        rw [Bool.not_eq_true', decide_eq_false_iff_not, not_le] at hnot
        exact hnot
    rw [hcount]
    constructor
    · rw [← neg_add', ← Nat.cast_succ, zpow_neg, zpow_natCast,
        inv_le_iff_one_le_mul₀ (by positivity), div_mul_eq_mul_div, le_div_iff₀ hpos, one_mul]
      exact_mod_cast hreached
    · rw [zpow_neg, zpow_natCast, div_lt_iff₀ hpos, ← div_eq_inv_mul, lt_div_iff₀ (by positivity)]
      exact_mod_cast hless

/-! ### Seventeen digits -/

/-- The smallest number is far above the decimals that are not worked out. -/
theorem pow_le_smallest : (10 : ℚ) ^ (-330 : ℤ) ≤ 2 ^ (-1074 : ℤ) := by
  have h : 2 ^ 1074 ≤ 10 ^ 330 := by decide +kernel
  rw [zpow_neg, zpow_neg, inv_le_inv₀ (by positivity) (by positivity)]
  exact_mod_cast h

/-- The largest number is below a power that has 310 digits. -/
theorem largest_le_pow : (2 : ℚ) ^ (1024 : ℤ) ≤ 10 ^ (309 : ℤ) := by
  have h : 2 ^ 1024 ≤ 10 ^ 309 := by decide +kernel
  exact_mod_cast h

theorem IsPlaced.smallest_le {significand : ℕ} {exponent : ℤ} (h : IsPlaced significand exponent) :
    (2 : ℚ) ^ (-1074 : ℤ) ≤ significand * 2 ^ exponent := by
  have hone : (1 : ℚ) ≤ significand := by exact_mod_cast h.pos
  calc
    (2 : ℚ) ^ (-1074 : ℤ) ≤ 2 ^ exponent := zpow_le_zpow_right₀ (by norm_num) h.lowest
    _ ≤ significand * 2 ^ exponent := le_mul_of_one_le_left (by positivity) hone

theorem IsPlaced.lt_largest {significand : ℕ} {exponent : ℤ} (h : IsPlaced significand exponent) :
    (significand : ℚ) * 2 ^ exponent < 2 ^ (1024 : ℤ) := by
  have hfits : (significand : ℚ) < 2 ^ 53 := by exact_mod_cast h.fits
  calc
    (significand : ℚ) * 2 ^ exponent < 2 ^ 53 * 2 ^ exponent :=
      mul_lt_mul_of_pos_right hfits (by positivity)
    _ = 2 ^ (53 + exponent) := by rw [zpow_add₀ two_ne_zero, zpow_ofNat]
    _ ≤ 2 ^ (1024 : ℤ) := zpow_le_zpow_right₀ (by norm_num) (by have := h.highest; omega)

/-- A decimal with seventeen digits or, after a carry, eighteen, that is as near as they come. -/
theorem ofDecimal_of_near {significand n : ℕ} {exponent point : ℤ}
    (h : IsPlaced significand exponent)
    (hlow : (10 : ℚ) ^ (point - 1) ≤ significand * 2 ^ exponent)
    (hhigh : (significand : ℚ) * 2 ^ exponent < 10 ^ point)
    (hnear : |(n : ℚ) - significand * 2 ^ exponent * 10 ^ (-(point - 17))| ≤ 1 / 2)
    (negative : Bool) :
    ofDecimal negative n (point - 17) = .finite negative significand exponent := by
  have hten : ∀ k : ℤ, (0 : ℚ) < 10 ^ k := fun k => by positivity
  -- `t` is the number counted in units of the seventeenth digit.
  obtain ⟨t, ht⟩ : ∃ t : ℚ, (significand : ℚ) * 2 ^ exponent = t * 10 ^ (point - 17) :=
    ⟨_, (div_mul_cancel₀ _ (hten (point - 17)).ne').symm⟩
  have hshift : ∀ k : ℕ, (10 : ℚ) ^ ((k : ℤ) + (point - 17)) = 10 ^ k * 10 ^ (point - 17) := by
    intro k
    rw [zpow_add₀ (by norm_num), zpow_natCast]
  have htlow : (10 : ℚ) ^ 16 ≤ t := by
    refine le_of_mul_le_mul_right ?_ (hten (point - 17))
    calc
      (10 : ℚ) ^ 16 * 10 ^ (point - 17) = 10 ^ (((16 : ℕ) : ℤ) + (point - 17)) := (hshift 16).symm
      _ = 10 ^ (point - 1) := by congr 1; push_cast; ring
      _ ≤ t * 10 ^ (point - 17) := by rw [← ht]; exact hlow
  have hthigh : t < 10 ^ 17 := by
    refine lt_of_mul_lt_mul_right ?_ (hten (point - 17)).le
    calc
      t * 10 ^ (point - 17) < 10 ^ point := by rw [← ht]; exact hhigh
      _ = 10 ^ (((17 : ℕ) : ℤ) + (point - 17)) := by congr 1; push_cast; ring
      _ = 10 ^ 17 * 10 ^ (point - 17) := hshift 17
  have hcount : |(n : ℚ) - t| ≤ 1 / 2 := by
    rwa [ht, mul_assoc, ← zpow_add₀ (by norm_num), add_neg_cancel, zpow_zero, mul_one] at hnear
  obtain ⟨hbelow, habove⟩ := abs_le.mp hcount
  have hnlow : 10 ^ 16 ≤ n := by
    have hcast : (10 : ℚ) ^ 16 < n + 1 := by linarith
    have hlt : 10 ^ 16 < n + 1 := by exact_mod_cast hcast
    omega
  have hnhigh : n < 10 ^ 18 := by
    have hcast : (n : ℚ) < 10 ^ 18 := by linarith
    exact_mod_cast hcast
  have hlengthLow : ¬(Nat.toDigits 10 n).length ≤ 16 := by
    rw [Nat.length_toDigits_le_iff (by decide) (by decide)]
    exact not_lt.mpr hnlow
  have hlengthHigh : (Nat.toDigits 10 n).length ≤ 18 :=
    (Nat.length_toDigits_le_iff (by decide) (by decide)).mpr hnhigh
  have hpointLow : -330 < point :=
    (zpow_lt_zpow_iff_right₀ (by norm_num)).mp
      ((pow_le_smallest.trans h.smallest_le).trans_lt hhigh)
  have hpointHigh : point - 1 < 309 :=
    (zpow_lt_zpow_iff_right₀ (by norm_num)).mp
      (hlow.trans_lt (h.lt_largest.trans_le largest_le_pow))
  rw [ofDecimal_eq_ofQuotient (by omega) (by omega) (by omega)]
  have hpower : 0 < Nat.pow 10 (-(point - 17)).toNat := Nat.pow_pos (by decide)
  refine ofQuotient_of_near hpower h ?_ negative
  rw [cast_power_div (by decide), Nat.cast_ofNat, ht, ← sub_mul, abs_mul,
    abs_of_pos (hten (point - 17))]
  calc
    |(n : ℚ) - t| * 10 ^ (point - 17) * (2 * 10 ^ 16)
      = |(n : ℚ) - t| * (2 * 10 ^ 16) * 10 ^ (point - 17) := by ring
    _ ≤ t * 10 ^ (point - 17) :=
      mul_le_mul_of_nonneg_right (by linarith) (hten (point - 17)).le

/-- **With seventeen digits the nearest decimal reads back.** -/
theorem isSome_decimalOfLength?_seventeen {significand : ℕ} {exponent : ℤ}
    (h : IsPlaced significand exponent) :
    (decimalOfLength? significand exponent 17).isSome = true := by
  obtain ⟨a, ha⟩ : ∃ a, a = significand * Nat.pow 2 exponent.toNat := ⟨_, rfl⟩
  obtain ⟨b, hb⟩ : ∃ b, b = Nat.pow 2 (-exponent).toNat := ⟨_, rfl⟩
  have hbpos : 0 < b := hb ▸ Nat.pow_pos (by decide)
  have hvalue : (a : ℚ) / b = significand * 2 ^ exponent := by
    rw [ha, hb, cast_power_div (by decide), Nat.cast_ofNat]
  have hfar : ∃ n < 400, b ≤ a * 10 ^ (n + 1) := by
    obtain ⟨n, hn, hsmall⟩ : ∃ n < 400, (10 : ℚ) ^ (-((n + 1 : ℕ) : ℤ)) ≤ 2 ^ (-1074 : ℤ) :=
      ⟨329, by decide, pow_le_smallest⟩
    have hlow := hsmall.trans h.smallest_le
    rw [← hvalue, le_div_iff₀ (by exact_mod_cast hbpos), zpow_neg, ← div_eq_inv_mul,
      div_le_iff₀ (by positivity)] at hlow
    exact ⟨n, hn, by exact_mod_cast hlow⟩
  obtain ⟨hlow, hhigh⟩ := digitsBeforePoint_bounds hbpos hfar
  rw [hvalue] at hlow hhigh
  have hgrid : 0 < b * Nat.pow 10 (digitsBeforePoint a b - 17).toNat :=
    Nat.mul_pos hbpos (Nat.pow_pos (by decide))
  have hnear := abs_nearest_sub_le
    (a * Nat.pow 10 (-(digitsBeforePoint a b - 17)).toNat) hgrid
  have hscaled := cast_scaled_div (b := 10) (by decide) a b (-(digitsBeforePoint a b - 17))
  rw [neg_neg, Nat.cast_ofNat, hvalue] at hscaled
  rw [hscaled] at hnear
  have hreads := ofDecimal_of_near h hlow hhigh hnear false
  simp only [decimalOfLength?, ← ha, ← hb, Nat.cast_ofNat, hreads, beq_self_eq_true, if_true,
    Option.isSome_some]

/-! ### Signs -/

/-- A number with another sign. -/
def withSign (negative : Bool) : Double → Double
  | .finite _ significand exponent => .finite negative significand exponent
  | .infinite _ => .infinite negative
  | .undefined => .undefined

theorem ofQuotient_eq_withSign (negative : Bool) (a b : ℕ) :
    ofQuotient negative a b = (ofQuotient false a b).withSign negative := by
  simp only [ofQuotient, zero]
  split_ifs <;> rfl

theorem ofDecimal_eq_withSign (negative : Bool) (c : ℕ) (e : ℤ) :
    ofDecimal negative c e = (ofDecimal false c e).withSign negative := by
  simp only [ofDecimal, zero]
  split_ifs
  · rfl
  · rfl
  · exact ofQuotient_eq_withSign negative _ _

end Double

/-! ### Digits without zeros at the end -/

/-- The numeral of a number other than zero does not start with a zero. -/
theorem exists_cons_ofNat_of_pos {n : ℕ} (hn : 0 < n) :
    ∃ c rest, Text.ofNat n = c :: rest ∧ c ≠ '0' := by
  induction n using Nat.strongRecOn with
  | ind n ih =>
    rw [Text.ofNat, Nat.toDigits_eq_if (by decide)]
    split
    · next hless =>
      refine ⟨_, [], rfl, ?_⟩
      interval_cases n <;> decide
    · next hmore =>
      obtain ⟨c, rest, hdigits, hc⟩ := ih (n / 10) (by omega) (by omega)
      rw [Text.ofNat] at hdigits
      exact ⟨c, _, by rw [hdigits, List.cons_append], hc⟩

/-- The zeros that are left out at the end of a numeral. -/
theorem exists_ofNat_eq_append (n : ℕ) : ∃ k,
    Text.ofNat n = Text.dropTrailing (· == '0') (Text.ofNat n) ++ List.replicate k '0' := by
  obtain ⟨dropped, hsplit, hzeros⟩ := Text.exists_dropTrailing_append (· == '0') (Text.ofNat n)
  refine ⟨dropped.length, ?_⟩
  have hdropped : dropped = List.replicate dropped.length '0' :=
    List.eq_replicate_of_mem fun c hc => beq_iff_eq.mp (hzeros c hc)
  rw [← hdropped]
  exact hsplit

namespace DecimalDigits

/-- Digits of which the first is not zero. -/
structure IsProper (d : DecimalDigits) : Prop where
  /-- There is nothing but digits. -/
  isDigit : ∀ c ∈ d.digits, c.isDigit = true
  /-- There is a first digit, and it is not zero. -/
  leading : ∃ c rest, d.digits = c :: rest ∧ c ≠ '0'

/-- The number of double precision that digits denote. -/
def rounded (d : DecimalDigits) (negative : Bool) : Double :=
  .ofDecimal negative (Nat.ofDigitChars 10 d.digits 0) (d.point - d.digits.length)

/-- The digits of `n` times ten to the power `unit`, without zeros at the end. -/
def withoutZeros (n : ℕ) (unit : ℤ) : DecimalDigits :=
  ⟨Text.dropTrailing (· == '0') (Text.ofNat n), (Text.ofNat n).length + unit⟩

theorem isProper_withoutZeros {n : ℕ} (hn : 0 < n) (unit : ℤ) : (withoutZeros n unit).IsProper := by
  obtain ⟨k, hsplit⟩ := exists_ofNat_eq_append n
  constructor
  · intro c hc
    refine isDigit_of_mem_ofNat (n := n) ?_
    rw [hsplit]
    exact List.mem_append_left _ hc
  · obtain ⟨c, rest, hdigits, hc⟩ := exists_cons_ofNat_of_pos hn
    show ∃ c rest, Text.dropTrailing (· == '0') (Text.ofNat n) = c :: rest ∧ c ≠ '0'
    generalize Text.dropTrailing (· == '0') (Text.ofNat n) = kept at hsplit
    rw [hdigits] at hsplit
    -- The first digit is not one of the zeros that are left out.
    cases kept with
    | nil =>
      have hzero : c ∈ List.replicate k '0' := by
        rw [← List.nil_append (List.replicate k '0'), ← hsplit]
        exact List.mem_cons_self
      exact absurd (List.eq_of_mem_replicate hzero) hc
    | cons first others => exact ⟨first, others, rfl, (List.cons.inj hsplit).1 ▸ hc⟩

/-- Leaving out zeros at the end does not change what digits denote. -/
theorem rounded_withoutZeros (n : ℕ) (unit : ℤ) (negative : Bool) :
    (withoutZeros n unit).rounded negative = .ofDecimal negative n unit := by
  obtain ⟨k, hsplit⟩ := exists_ofNat_eq_append n
  rw [rounded, withoutZeros]
  generalize Text.dropTrailing (· == '0') (Text.ofNat n) = kept at hsplit
  have hvalue : Nat.ofDigitChars 10 kept 0 * 10 ^ k = n := by
    calc
      Nat.ofDigitChars 10 kept 0 * 10 ^ k
        = Nat.ofDigitChars 10 (kept ++ List.replicate k '0') 0 := by
        rw [Nat.ofDigitChars_append, Nat.ofDigitChars_replicate_zero, mul_comm]
      _ = Nat.ofDigitChars 10 (Text.ofNat n) 0 := by rw [hsplit]
      _ = n := Nat.ofDigitChars_ten_toDigits
  have hpoint : ((Text.ofNat n).length : ℤ) + unit - kept.length = unit + k := by
    rw [hsplit, List.length_append, List.length_replicate]
    push_cast
    ring
  show Double.ofDecimal negative (Nat.ofDigitChars 10 kept 0)
    ((Text.ofNat n).length + unit - kept.length) = _
  rw [hpoint, ← Double.ofDecimal_mul_pow, hvalue]

end DecimalDigits

/-! ### The shortest decimal -/

namespace Double

variable {significand : ℕ} {exponent : ℤ}

/-- A decimal that is written was tried. -/
theorem exists_of_decimalOfLength? {count : ℕ} {d : DecimalDigits}
    (h : decimalOfLength? significand exponent count = some d) :
    ∃ n unit, ofDecimal false n unit = .finite false significand exponent ∧
      d = .withoutZeros n unit := by
  -- Two decimals are tried one after the other, whichever they are.
  have htried : ∀ (closest other : ℕ) (unit : ℤ),
      (if ofDecimal false closest unit == .finite false significand exponent then
        some (DecimalDigits.withoutZeros closest unit)
      else if ofDecimal false other unit == .finite false significand exponent then
        some (DecimalDigits.withoutZeros other unit)
      else none) = some d →
      ∃ n unit, ofDecimal false n unit = .finite false significand exponent ∧
        d = .withoutZeros n unit := by
    intro closest other unit hd
    split at hd
    · next hreads => exact ⟨closest, unit, beq_iff_eq.mp hreads, (Option.some.inj hd).symm⟩
    · split at hd
      · next hreads => exact ⟨other, unit, beq_iff_eq.mp hreads, (Option.some.inj hd).symm⟩
      · cases hd
  exact htried _ _ _ h

/-- Some trial succeeds. -/
theorem exists_shortest (h : IsPlaced significand exponent) :
    ∃ n unit, ofDecimal false n unit = .finite false significand exponent ∧
      shortest significand exponent = .withoutZeros n unit := by
  obtain ⟨d, hd⟩ : ∃ d, (List.range 17).findSome?
      (fun n => decimalOfLength? significand exponent (n + 1)) = some d := by
    rw [← Option.isSome_iff_exists, List.findSome?_isSome_iff]
    exact ⟨16, List.mem_range.mpr (by decide), isSome_decimalOfLength?_seventeen h⟩
  obtain ⟨count, -, hcount⟩ := List.exists_of_findSome?_eq_some hd
  obtain ⟨n, unit, hreads, rfl⟩ := exists_of_decimalOfLength? hcount
  exact ⟨n, unit, hreads, by rw [shortest, hd, Option.getD_some]⟩

theorem isProper_shortest (h : IsPlaced significand exponent) :
    (shortest significand exponent).IsProper := by
  obtain ⟨n, unit, hreads, hshown⟩ := exists_shortest h
  rw [hshown]
  refine DecimalDigits.isProper_withoutZeros (Nat.pos_of_ne_zero ?_) unit
  -- Zero would be read as zero.
  rintro rfl
  have hzero : ofDecimal false 0 unit = zero false := rfl
  rw [hzero] at hreads
  injection hreads with _ hsignificand
  exact absurd hsignificand h.pos.ne

/-- **The digits that are written denote the number.** -/
theorem rounded_shortest (h : IsPlaced significand exponent) (negative : Bool) :
    (shortest significand exponent).rounded negative = .finite negative significand exponent := by
  obtain ⟨n, unit, hreads, hshown⟩ := exists_shortest h
  calc
    (shortest significand exponent).rounded negative
      = ofDecimal negative n unit := by rw [hshown, DecimalDigits.rounded_withoutZeros]
    _ = (ofDecimal false n unit).withSign negative := ofDecimal_eq_withSign negative n unit
    _ = .finite negative significand exponent := by rw [hreads, withSign]

end Double

end SqlInventory
