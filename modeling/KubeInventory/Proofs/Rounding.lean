import KubeInventory.Binary64.Decimal
import Mathlib

/-! Rounding to the nearest number of the format. A fraction rounds to a number just if it lies in
the interval around it, half a unit of its last place to either side, or a quarter below a power of
two; the test whether a decimal reads back asks for just that. -/

namespace KubeInventory.Binary64

/-- The form in which each number of the format stands. -/
structure Canonical (x : Binary64) : Prop where
  mantissa_lt : x.mantissa < 2 ^ 53
  least : -1074 ≤ x.exponent
  greatest : x.exponent ≤ 971
  full : x.exponent = -1074 ∨ 2 ^ 52 ≤ x.mantissa

/-- A quotient is rounded to the number within half a unit of it; a tie goes to the even one. -/
theorem roundDiv_eq {n d k : Nat} (hDen : 0 < d) (hLow : 2 * (k * d) ≤ 2 * n + d)
    (hHigh : 2 * n ≤ 2 * (k * d) + d)
    (hOdd : k % 2 = 1 → 2 * (k * d) < 2 * n + d ∧ 2 * n < 2 * (k * d) + d) :
    roundDiv n d = k := by
  have hSplit := Nat.div_add_mod n d
  have hRest := Nat.mod_lt n hDen
  rw [roundDiv]
  generalize n / d = q at hSplit ⊢
  generalize n % d = r at hSplit hRest ⊢
  subst hSplit
  rw [Nat.mul_comm d q] at *
  have hNear : k = q ∨ k = q + 1 := by
    have hBelow : q < k + 1 := Nat.lt_of_mul_lt_mul_right (a := d) (by rw [Nat.add_mul]; omega)
    have hAbove : k < q + 2 := Nat.lt_of_mul_lt_mul_right (a := d) (by rw [Nat.add_mul]; omega)
    omega
  rcases hNear with rfl | rfl
  · by_cases hLess : 2 * r < d
    · simp [hLess]
    · have hTie : 2 * r = d := by omega
      have hEven : k % 2 = 0 := by
        by_contra hNotEven
        have hStrict := hOdd (by omega)
        omega
      simp [hTie, hEven]
  · rw [Nat.add_mul, Nat.one_mul] at *
    have hMore : ¬2 * r < d := by omega
    by_cases hTie : 2 * r = d
    · have hEven : (q + 1) % 2 = 0 := by
        by_contra hNotEven
        have hStrict := hOdd (by omega)
        omega
      have hQuotient : q % 2 = 1 := by omega
      simp [hTie, hQuotient]
    · simp [hMore, hTie]

theorem scale_den_pos (num : Nat) {den : Nat} (hDen : 0 < den) (e : Int) :
    0 < (scale num den e).2 := by
  rw [scale]
  split
  · exact Nat.mul_pos hDen (Nat.pow_pos (by decide))
  · exact hDen

/-- Scaling by a power of two multiplies above or below, so that both parts stay whole. -/
theorem scale_eq (num den : Nat) (e : Int) :
    ((scale num den e).1 : ℚ) / (scale num den e).2 = num / den / 2 ^ e := by
  rw [scale]
  split
  · rename_i hSign
    obtain ⟨k, rfl⟩ := Int.eq_ofNat_of_zero_le hSign
    simp [div_div]
  · rename_i hSign
    obtain ⟨k, hk⟩ := Int.eq_ofNat_of_zero_le (a := -e) (by omega)
    obtain rfl : e = -(k : Int) := by omega
    simp [mul_div_right_comm]


theorem two_zpow_log2_le {n : Nat} (h : n ≠ 0) : (2 : ℚ) ^ (n.log2 : Int) ≤ n := by
  have hLog := Nat.log2_self_le h
  rw [zpow_natCast]
  exact_mod_cast hLog

theorem lt_two_zpow_log2_succ (n : Nat) : (n : ℚ) < 2 ^ ((n.log2 : Int) + 1) := by
  have hLog := Nat.lt_log2_self (n := n)
  have hCast : ((n.log2 : Int) + 1) = ((n.log2 + 1 : Nat) : Int) := by simp
  rw [hCast, zpow_natCast]
  exact_mod_cast hLog

theorem two_zpow_lt_iff {a b : Int} : (2 : ℚ) ^ a < 2 ^ b ↔ a < b :=
  zpow_lt_zpow_iff_right₀ (by norm_num)

/-- A quotient in terms of the binary logarithms of its parts. -/
theorem quotient_bounds {num den : Nat} (hNum : num ≠ 0) (hDen : den ≠ 0) :
    (2 : ℚ) ^ ((num.log2 : Int) - den.log2 - 1) < num / den ∧
      (num : ℚ) / den < 2 ^ ((num.log2 : Int) - den.log2 + 1) := by
  have hPos : (0 : ℚ) < den := by exact_mod_cast Nat.pos_of_ne_zero hDen
  have hLow := two_zpow_log2_le hNum
  have hHigh := lt_two_zpow_log2_succ num
  have hLow' := two_zpow_log2_le hDen
  have hHigh' := lt_two_zpow_log2_succ den
  constructor
  · rw [lt_div_iff₀ hPos]
    calc (2 : ℚ) ^ ((num.log2 : Int) - den.log2 - 1) * den
        < 2 ^ ((num.log2 : Int) - den.log2 - 1) * 2 ^ ((den.log2 : Int) + 1) := by gcongr
      _ = 2 ^ (num.log2 : Int) := by
          rw [← zpow_add₀ (by norm_num)]
          congr 1
          omega
      _ ≤ num := hLow
  · rw [div_lt_iff₀ hPos]
    calc (num : ℚ) < 2 ^ ((num.log2 : Int) + 1) := hHigh
      _ = 2 ^ ((num.log2 : Int) - den.log2 + 1) * 2 ^ (den.log2 : Int) := by
          rw [← zpow_add₀ (by norm_num)]
          congr 1
          omega
      _ ≤ 2 ^ ((num.log2 : Int) - den.log2 + 1) * den := by gcongr

theorem full_le_scale_iff (num : Nat) {den : Nat} (hDen : 0 < den) (e : Int) :
    Nat.pow 2 precision * (scale num den e).2 ≤ (scale num den e).1 ↔
      (2 : ℚ) ^ (53 + e) ≤ num / den := by
  have hPos : (0 : ℚ) < (scale num den e).2 := by exact_mod_cast scale_den_pos num hDen e
  have hUnit : (0 : ℚ) < 2 ^ e := by positivity
  rw [zpow_add₀ (by norm_num), ← le_div_iff₀ hUnit, ← scale_eq, le_div_iff₀ hPos]
  norm_cast

/-- The exponent that a quotient is rounded at. -/
theorem exponent_eq {num den : Nat} (hNum : num ≠ 0) (hDen : den ≠ 0) {e : Int}
    (hLeast : -1074 ≤ e) (hBelow : (num : ℚ) / den < 2 ^ (53 + e))
    (hAbove : e = -1074 ∨ (2 : ℚ) ^ (52 + e) ≤ num / den) :
    let guess : Int := (num.log2 : Int) - den.log2 - precision
    max minExponent (if Nat.pow 2 precision * (scale num den guess).2 ≤ (scale num den guess).1
      then guess + 1 else guess) = e := by
  intro guess
  obtain ⟨hLow, hHigh⟩ := quotient_bounds hNum hDen
  have hGuess : guess = (num.log2 : Int) - den.log2 - 53 := rfl
  have hFull := full_le_scale_iff num (Nat.pos_of_ne_zero hDen) guess
  -- The exponent at which the mantissa is full, before the least one of the format counts.
  obtain ⟨full, hChosen, hLow', hHigh'⟩ : ∃ full : Int,
      (if Nat.pow 2 precision * (scale num den guess).2 ≤ (scale num den guess).1
        then guess + 1 else guess) = full ∧
      (2 : ℚ) ^ (52 + full) ≤ num / den ∧ (num : ℚ) / den < 2 ^ (53 + full) := by
    by_cases h : Nat.pow 2 precision * (scale num den guess).2 ≤ (scale num den guess).1
    · refine ⟨guess + 1, if_pos h, ?_, ?_⟩
      · rw [show 52 + (guess + 1) = 53 + guess by omega]
        exact hFull.mp h
      · rwa [show 53 + (guess + 1) = (num.log2 : Int) - den.log2 + 1 by omega]
    · refine ⟨guess, if_neg h, ?_, ?_⟩
      · rw [show 52 + guess = (num.log2 : Int) - den.log2 - 1 by omega]
        exact hLow.le
      · exact lt_of_not_ge (mt hFull.mpr h)
  have hLe : full ≤ e := by
    have hLess := two_zpow_lt_iff.mp (hLow'.trans_lt hBelow)
    omega
  have hMin : minExponent = -1074 := rfl
  rw [hChosen, hMin]
  rcases hAbove with rfl | hAbove
  · exact max_eq_left hLe
  · have hLess := two_zpow_lt_iff.mp (hAbove.trans_lt hHigh')
    omega

/-- How far below a number of the format lie the fractions that round to it, in units of its last
place. Below a power of two the spacing halves. -/
def reach (x : Binary64) : ℚ :=
  if x.mantissa = 2 ^ 52 ∧ -1074 < x.exponent then 1 / 4 else 1 / 2

/-- The fractions that round to a magnitude: the ends of the interval do if the mantissa is even. -/
structure Attracts (x : Binary64) (q : ℚ) : Prop where
  low : (x.mantissa - x.reach) * 2 ^ x.exponent ≤ q
  high : q ≤ (x.mantissa + 1 / 2) * 2 ^ x.exponent
  inside : x.mantissa % 2 = 1 → (x.mantissa - x.reach) * 2 ^ x.exponent < q ∧
    q < (x.mantissa + 1 / 2) * 2 ^ x.exponent

theorem reach_le (x : Binary64) : x.reach ≤ 1 / 2 := by
  rw [reach]
  split <;> norm_num

/-- What a quotient rounds to at a given exponent. -/
theorem roundDiv_scale_eq {num den k : Nat} {e : Int} (hDen : 0 < den)
    (hLow : ((k : ℚ) - 1 / 2) * 2 ^ e ≤ num / den) (hHigh : (num : ℚ) / den ≤ (k + 1 / 2) * 2 ^ e)
    (hOdd : k % 2 = 1 →
      ((k : ℚ) - 1 / 2) * 2 ^ e < num / den ∧ (num : ℚ) / den < (k + 1 / 2) * 2 ^ e) :
    roundDiv (scale num den e).1 (scale num den e).2 = k := by
  have hPos := scale_den_pos num hDen e
  have hScale := scale_eq num den e
  have hUnit : (0 : ℚ) < 2 ^ e := by positivity
  generalize (scale num den e).1 = n at hScale ⊢
  generalize (scale num den e).2 = d at hScale hPos ⊢
  have hPos' : (0 : ℚ) < d := by exact_mod_cast hPos
  have hQuotient : (num : ℚ) / den = n / d * 2 ^ e := by
    rw [hScale, div_mul_cancel₀ _ hUnit.ne']
  rw [hQuotient] at hLow hHigh hOdd
  rw [mul_le_mul_iff_left₀ hUnit, le_div_iff₀ hPos'] at hLow
  rw [mul_le_mul_iff_left₀ hUnit, div_le_iff₀ hPos'] at hHigh
  refine roundDiv_eq hPos ?_ ?_ fun hk => ?_
  · have hDouble : 2 * ((k : ℚ) * d) ≤ 2 * n + d := by linarith
    exact_mod_cast hDouble
  · have hDouble : 2 * (n : ℚ) ≤ 2 * (k * d) + d := by linarith
    exact_mod_cast hDouble
  · obtain ⟨hLow', hHigh'⟩ := hOdd hk
    rw [mul_lt_mul_iff_left₀ hUnit, lt_div_iff₀ hPos'] at hLow'
    rw [mul_lt_mul_iff_left₀ hUnit, div_lt_iff₀ hPos'] at hHigh'
    constructor
    · have hDouble : 2 * ((k : ℚ) * d) < 2 * n + d := by linarith
      exact_mod_cast hDouble
    · have hDouble : 2 * (n : ℚ) < 2 * (k * d) + d := by linarith
      exact_mod_cast hDouble

/-- Rounding at the exponent that a quotient calls for, with the carry of a mantissa that gets full.
-/
theorem round?_eq (negative : Bool) {num den : Nat} (hNum : num ≠ 0) (hDen : den ≠ 0) {e : Int}
    (hLeast : -1074 ≤ e) (hBelow : (num : ℚ) / den < 2 ^ (53 + e))
    (hAbove : e = -1074 ∨ (2 : ℚ) ^ (52 + e) ≤ num / den) {k : Nat}
    (hRound : roundDiv (scale num den e).1 (scale num den e).2 = k) :
    round? negative num den =
      if k = 2 ^ 53 then if 971 < e + 1 then none else some ⟨negative, 2 ^ 52, e + 1⟩
      else if 971 < e then none else some ⟨negative, k, e⟩ := by
  have hExponent := exponent_eq hNum hDen hLeast hBelow hAbove
  simp only at hExponent
  simp only [round?, beq_iff_eq, hNum, if_false, hExponent, hRound]
  by_cases hFull : k = 2 ^ 53
  · have hFull' : k = Nat.pow 2 precision := hFull
    rw [if_pos hFull, if_pos hFull']
    rfl
  · have hFull' : ¬k = Nat.pow 2 precision := hFull
    rw [if_neg hFull, if_neg hFull']
    rfl

theorem Attracts.lt_two_zpow {x : Binary64} (hForm : x.Canonical) {q : ℚ} (h : x.Attracts q) :
    q < 2 ^ (53 + x.exponent) := by
  have hMantissa : (x.mantissa : ℚ) + 1 ≤ 2 ^ 53 := by exact_mod_cast hForm.mantissa_lt
  calc q ≤ (x.mantissa + 1 / 2) * 2 ^ x.exponent := h.high
    _ < 2 ^ 53 * 2 ^ x.exponent := by gcongr; linarith
    _ = 2 ^ (53 + x.exponent) := by rw [zpow_add₀ (by norm_num)]; rfl

/-- Just below a power of two the exponent is one less, and rounding carries back. -/
theorem round?_of_attracts_carry {x : Binary64} (hForm : x.Canonical) {num den : Nat}
    (hNum : num ≠ 0) (hDen : den ≠ 0) (h : x.Attracts (num / den)) (hLeast : x.exponent ≠ -1074)
    (hBelow : (num : ℚ) / den < 2 ^ (52 + x.exponent)) :
    round? x.negative num den = some x := by
  have hReach := x.reach_le
  have hFull := hForm.full.resolve_left hLeast
  have hPower : (2 : ℚ) ^ (52 + x.exponent) = 2 ^ 52 * 2 ^ x.exponent := by
    rw [zpow_add₀ (by norm_num)]
    rfl
  have hHalf : (2 : ℚ) ^ x.exponent = 2 * 2 ^ (x.exponent - 1) := by
    rw [← zpow_one_add₀ (by norm_num)]
    congr 1
    omega
  -- Of the numbers with this exponent only the power of two itself reaches below that power.
  have hExact : x.mantissa = 2 ^ 52 := by
    have hUnit : (0 : ℚ) < 2 ^ x.exponent := by positivity
    have hLess := h.low.trans_lt hBelow
    rw [hPower, mul_lt_mul_iff_left₀ hUnit] at hLess
    have hSmall : (x.mantissa : ℚ) < 2 ^ 52 + 1 := by linarith
    have hSmall' : x.mantissa < 2 ^ 52 + 1 := by exact_mod_cast hSmall
    omega
  have hLow := h.low
  rw [reach, if_pos ⟨hExact, lt_of_le_of_ne hForm.least (Ne.symm hLeast)⟩, hExact, hHalf] at hLow
  push_cast at hLow
  have hUnit : (0 : ℚ) < 2 ^ (x.exponent - 1) := by positivity
  rw [hPower, hHalf] at hBelow
  have hRound : roundDiv (scale num den (x.exponent - 1)).1 (scale num den (x.exponent - 1)).2 =
      2 ^ 53 := by
    refine roundDiv_scale_eq (Nat.pos_of_ne_zero hDen) ?_ ?_ fun hOdd => absurd hOdd (by decide)
    · push_cast
      linarith
    · push_cast
      linarith
  have hBelow' : (num : ℚ) / den < 2 ^ (53 + (x.exponent - 1)) := by
    rw [zpow_add₀ (by norm_num)]
    norm_num at hBelow ⊢
    linarith
  have hAbove : (2 : ℚ) ^ (52 + (x.exponent - 1)) ≤ num / den := by
    rw [zpow_add₀ (by norm_num)]
    norm_num at hLow ⊢
    linarith
  have hLeast' : -1074 ≤ x.exponent - 1 := by
    have hBound := hForm.least
    omega
  rw [round?_eq x.negative hNum hDen hLeast' hBelow' (.inr hAbove) hRound, if_pos rfl,
    sub_add_cancel, if_neg (Int.not_lt.mpr hForm.greatest), ← hExact]

/-- What lies in the interval of a number rounds to it. -/
theorem round?_of_attracts {x : Binary64} (hForm : x.Canonical)
    {num den : Nat} (hNum : num ≠ 0) (hDen : den ≠ 0) (h : x.Attracts (num / den)) :
    round? x.negative num den = some x := by
  have hReach := x.reach_le
  by_cases hAbove : x.exponent = -1074 ∨ (2 : ℚ) ^ (52 + x.exponent) ≤ num / den
  · have hRound : roundDiv (scale num den x.exponent).1 (scale num den x.exponent).2 =
        x.mantissa := by
      refine roundDiv_scale_eq (Nat.pos_of_ne_zero hDen) ?_ h.high fun hOdd =>
        ⟨?_, (h.inside hOdd).2⟩
      · exact le_trans (by gcongr) h.low
      · exact lt_of_le_of_lt (by gcongr) (h.inside hOdd).1
    rw [round?_eq x.negative hNum hDen hForm.least (h.lt_two_zpow hForm) hAbove hRound,
      if_neg (Nat.ne_of_lt hForm.mantissa_lt), if_neg (Int.not_lt.mpr hForm.greatest)]
  · push Not at hAbove
    exact round?_of_attracts_carry hForm hNum hDen h hAbove.1 hAbove.2

section ReadingBack

/-- The magnitude of a number. -/
def size (x : Binary64) : ℚ := x.mantissa * 2 ^ x.exponent

theorem magnitude_den_pos (x : Binary64) : 0 < x.magnitude.2 := by
  rw [magnitude]
  split
  · exact Nat.one_pos
  · exact Nat.pow_pos (by decide)

theorem magnitude_eq (x : Binary64) : (x.magnitude.1 : ℚ) / x.magnitude.2 = x.size := by
  rw [magnitude, size]
  split
  · rename_i hSign
    obtain ⟨k, hk⟩ := Int.eq_ofNat_of_zero_le hSign
    simp [hk]
  · rename_i hSign
    obtain ⟨k, hk⟩ := Int.eq_ofNat_of_zero_le (a := -x.exponent) (by omega)
    obtain hExponent : x.exponent = -(k : Int) := by omega
    simp [hExponent, div_eq_mul_inv]

theorem isLE_compareFractions {a b c d : Nat} (hb : 0 < b) (hd : 0 < d) :
    (compareFractions a b c d).isLE = true ↔ (a : ℚ) / b ≤ c / d := by
  have hb' : (0 : ℚ) < b := by exact_mod_cast hb
  have hd' : (0 : ℚ) < d := by exact_mod_cast hd
  rw [compareFractions, Nat.isLE_compare, div_le_div_iff₀ hb' hd']
  norm_cast

theorem compareFractions_eq_lt {a b c d : Nat} (hb : 0 < b) (hd : 0 < d) :
    compareFractions a b c d = .lt ↔ (a : ℚ) / b < c / d := by
  have hb' : (0 : ℚ) < b := by exact_mod_cast hb
  have hd' : (0 : ℚ) < d := by exact_mod_cast hd
  rw [compareFractions, Nat.compare_eq_lt, div_lt_div_iff₀ hb' hd']
  norm_cast

/-- The interval of a number, as it is computed. -/
theorem roundingInterval_eq {x : Binary64} (hSome : 0 < x.mantissa) :
    0 < x.roundingInterval.2.2 ∧
    (x.roundingInterval.1 : ℚ) / x.roundingInterval.2.2 =
      (x.mantissa - x.reach) * 2 ^ x.exponent ∧
    (x.roundingInterval.2.1 : ℚ) / x.roundingInterval.2.2 =
      (x.mantissa + 1 / 2) * 2 ^ x.exponent := by
  have hPos := x.magnitude_den_pos
  have hSize := x.magnitude_eq
  have hUnitPos := (⟨false, 1, x.exponent⟩ : Binary64).magnitude_den_pos
  have hUnit := (⟨false, 1, x.exponent⟩ : Binary64).magnitude_eq
  rw [size] at hSize
  rw [size, Nat.cast_one, one_mul] at hUnit
  rw [roundingInterval]
  generalize x.magnitude = whole at hSize hPos ⊢
  generalize (⟨false, 1, x.exponent⟩ : Binary64).magnitude = unit at hUnit hUnitPos ⊢
  obtain ⟨n, d⟩ := whole
  obtain ⟨u, v⟩ := unit
  dsimp only at *
  have hReach : x.reach = ((if x.mantissa == Nat.pow 2 (precision - 1) && minExponent < x.exponent
      then 1 else 2 : Nat) : ℚ) / 4 := by
    have hPower : Nat.pow 2 (precision - 1) = 2 ^ 52 := rfl
    have hMin : minExponent = -1074 := rfl
    simp only [reach, hPower, hMin, Bool.and_eq_true, beq_iff_eq, decide_eq_true_eq]
    split <;> norm_num
  generalize hBelow : (if x.mantissa == Nat.pow 2 (precision - 1) && minExponent < x.exponent
      then 1 else 2 : Nat) = below at hReach ⊢
  have hAtMost : below ≤ 2 := by
    rw [← hBelow]
    split <;> decide
  have hd : (0 : ℚ) < d := by exact_mod_cast hPos
  have hv : (0 : ℚ) < v := by exact_mod_cast hUnitPos
  -- The subtraction of naturals in the lower bound is exact, as the reach is below the number.
  have hUnitLe : u * d ≤ n * v := by
    have hOne : (1 : ℚ) ≤ x.mantissa := by exact_mod_cast hSome
    have hLe : (u : ℚ) / v ≤ n / d := by
      rw [hUnit, hSize]
      exact le_mul_of_one_le_left (by positivity) hOne
    rw [div_le_div_iff₀ hv hd] at hLe
    exact_mod_cast hLe
  have hLess : below * u * d ≤ 4 * n * v := by
    calc below * u * d = below * (u * d) := Nat.mul_assoc ..
      _ ≤ 2 * (n * v) := Nat.mul_le_mul hAtMost hUnitLe
      _ ≤ 4 * n * v := by rw [Nat.mul_assoc]; omega
  refine ⟨by positivity, ?_, ?_⟩
  · rw [Nat.cast_sub hLess, sub_mul, ← hSize, hReach, ← hUnit]
    push_cast
    field_simp
  · rw [add_mul, ← hSize, ← hUnit]
    push_cast
    field_simp
    ring

/-- The test on whole numbers asks for the interval of the number. -/
theorem readsBack_iff {x : Binary64} (hSome : 0 < x.mantissa) {num den : Nat} (hDen : 0 < den) :
    x.readsBack num den = true ↔ x.Attracts (num / den) := by
  obtain ⟨hPos, hLow, hHigh⟩ := roundingInterval_eq hSome
  rw [readsBack]
  generalize x.roundingInterval = interval at hPos hLow hHigh ⊢
  obtain ⟨low, high, d⟩ := interval
  dsimp only at hPos hLow hHigh ⊢
  split
  · rename_i hEven
    have hNotOdd : x.mantissa % 2 ≠ 1 := by
      have hRest := eq_of_beq hEven
      omega
    rw [Bool.and_eq_true, isLE_compareFractions hPos hDen, isLE_compareFractions hDen hPos, hLow,
      hHigh]
    exact ⟨fun h => ⟨h.1, h.2, fun hOdd => absurd hOdd hNotOdd⟩, fun h => ⟨h.low, h.high⟩⟩
  · rename_i hNotEven
    have hOdd : x.mantissa % 2 = 1 := by
      have hRest : x.mantissa % 2 ≠ 0 := by simpa using hNotEven
      omega
    rw [Bool.and_eq_true, beq_iff_eq, beq_iff_eq, compareFractions_eq_lt hPos hDen,
      compareFractions_eq_lt hDen hPos, hLow, hHigh]
    exact ⟨fun h => ⟨h.1.le, h.2.le, fun _ => h⟩, fun h => h.inside hOdd⟩

theorem Attracts.pos {x : Binary64} {q : ℚ} (h : x.Attracts q) (hSome : 0 < x.mantissa) :
    0 < q := by
  have hOne : (1 : ℚ) ≤ x.mantissa := by exact_mod_cast hSome
  have hReach := x.reach_le
  have hLow : (0 : ℚ) < (x.mantissa - x.reach) * 2 ^ x.exponent :=
    mul_pos (by linarith) (by positivity)
  exact hLow.trans_le h.low

end ReadingBack

end KubeInventory.Binary64
