import KubeInventory.Proofs.Rounding

/-! The shortest decimal of a number reads back: seventeen digits behind the first make a grid so
fine that one of its points next to the number rounds to it. -/

namespace KubeInventory.Binary64

section Shortest

theorem powerOfTen_den_pos (place : Int) : 0 < (powerOfTen place).2 := by
  rw [powerOfTen]
  split
  · exact Nat.one_pos
  · exact Nat.pow_pos (by decide)

theorem powerOfTen_num_pos (place : Int) : 0 < (powerOfTen place).1 := by
  rw [powerOfTen]
  split
  · exact Nat.pow_pos (by decide)
  · exact Nat.one_pos

/-- A power of ten as a fraction of two whole numbers, of which one is one. -/
theorem powerOfTen_eq (place : Int) :
    ((powerOfTen place).1 : ℚ) / (powerOfTen place).2 = 10 ^ place := by
  rw [powerOfTen]
  split
  · rename_i hSign
    obtain ⟨k, rfl⟩ := Int.eq_ofNat_of_zero_le hSign
    simp
  · rename_i hSign
    obtain ⟨k, hk⟩ := Int.eq_ofNat_of_zero_le (a := -place) (by omega)
    obtain rfl : place = -(k : Int) := by omega
    simp

/-- A point of the grid is taken only if it rounds to the number. -/
theorem readsBack_of_gridPoint? {x : Binary64} {place : Int} {k : Nat}
    (h : x.gridPoint? place = some k) :
    x.readsBack (k * (powerOfTen place).1) (powerOfTen place).2 = true := by
  rw [gridPoint?] at h
  dsimp only at h
  split at h
  · cases h
  · rename_i hFits _
    cases h
    exact hFits
  · rename_i hFits
    cases h
    exact hFits
  · rename_i hFits hFits'
    split at h
    · cases h
      exact hFits
    · cases h
      exact hFits'
    · cases h
      rcases Nat.mod_two_eq_zero_or_one (x.magnitude.1 * (powerOfTen place).2 /
        (x.magnitude.2 * (powerOfTen place).1)) with hEven | hOdd
      · rw [hEven]
        exact hFits
      · rw [hOdd]
        exact hFits'

/-- A fraction lies between the multiple of a step that division finds and the next. -/
theorem grid_bounds (n gd : Nat) {d gn : Nat} (hd : 0 < d) (hgn : 0 < gn) (hgd : 0 < gd) :
    ((n * gd / (d * gn) : Nat) : ℚ) * (gn / gd) ≤ n / d ∧
      (n : ℚ) / d < ((n * gd / (d * gn) : Nat) + 1) * (gn / gd) := by
  have hd' : (0 : ℚ) < d := by exact_mod_cast hd
  have hgd' : (0 : ℚ) < gd := by exact_mod_cast hgd
  generalize hLower : n * gd / (d * gn) = lower
  constructor
  · have hDiv : lower * (d * gn) ≤ n * gd := hLower ▸ Nat.div_mul_le_self ..
    rw [mul_div_assoc', div_le_div_iff₀ hgd' hd']
    calc (lower : ℚ) * gn * d = (lower * (d * gn) : Nat) := by push_cast; ring
      _ ≤ (n * gd : Nat) := by exact_mod_cast hDiv
      _ = n * gd := by push_cast; rfl
  · have hDiv : n * gd < (lower + 1) * (d * gn) := by
      rw [← hLower, Nat.add_mul, Nat.one_mul, Nat.mul_comm]
      exact Nat.lt_div_mul_add (Nat.mul_pos hd hgn)
    rw [mul_div_assoc', div_lt_div_iff₀ hd' hgd']
    calc (n : ℚ) * gd = (n * gd : Nat) := by push_cast; rfl
      _ < ((lower + 1) * (d * gn) : Nat) := by exact_mod_cast hDiv
      _ = (lower + 1) * gn * d := by push_cast; ring

/-- On a grid finer than the interval some point reads back. -/
theorem exists_gridPoint? {x : Binary64} (hSome : 0 < x.mantissa) {place : Int}
    (hFine : (10 : ℚ) ^ place < 2 ^ x.exponent / 2) : (x.gridPoint? place).isSome = true := by
  have hd := x.magnitude_den_pos
  have hgn := powerOfTen_num_pos place
  have hgd := powerOfTen_den_pos place
  have hTen := powerOfTen_eq place
  have hSize := x.magnitude_eq
  rw [gridPoint?]
  generalize x.magnitude = whole at *
  generalize powerOfTen place = grid at *
  obtain ⟨n, d⟩ := whole
  obtain ⟨gn, gd⟩ := grid
  dsimp only at *
  obtain ⟨hReached, hPassed⟩ := grid_bounds n gd hd hgn hgd
  generalize n * gd / (d * gn) = lower at *
  -- The point of the grid just above the number always reads back.
  have hUpper : x.readsBack ((lower + 1) * gn) gd = true := by
    have hReach : (0 : ℚ) ≤ x.reach := by
      rw [reach]
      split <;> norm_num
    have hPoint : (((lower + 1) * gn : Nat) : ℚ) / gd = (lower + 1) * (gn / gd) := by
      push_cast
      ring
    rw [size] at hSize
    have hLow : (x.mantissa - x.reach) * 2 ^ x.exponent < (lower + 1) * ((gn : ℚ) / gd) := by
      refine lt_of_le_of_lt ?_ hPassed
      rw [hSize]
      gcongr
      linarith
    have hHigh : (lower + 1) * ((gn : ℚ) / gd) < (x.mantissa + 1 / 2) * 2 ^ x.exponent := by
      rw [hTen] at hReached ⊢
      rw [hSize] at hReached
      linarith
    rw [readsBack_iff hSome hgd, hPoint]
    exact ⟨hLow.le, hHigh.le, fun _ => ⟨hLow, hHigh⟩⟩
  rw [hUpper]
  cases x.readsBack (lower * gn) gd with
  | false => rfl
  | true =>
      dsimp only
      split <;> rfl

/-- Ten to the fifty-ninth is just below a power of two and ten to the twenty-eighth just above one,
so powers of ten are compared with powers of two by their exponents. -/
theorem ten_zpow_le_two_zpow {p k : Int} (hUp : 196 * p ≤ 59 * k) (hDown : 93 * p ≤ 28 * k) :
    (10 : ℚ) ^ p ≤ 2 ^ k := by
  obtain ⟨a, rfl | rfl⟩ := p.eq_nat_or_neg
  · have hPowers : ((10 : ℚ) ^ (a : Int)) ^ 59 ≤ (2 ^ k) ^ 59 := by
      calc ((10 : ℚ) ^ (a : Int)) ^ 59 = (10 ^ 59) ^ a := by rw [zpow_natCast, pow_right_comm]
        _ ≤ (2 ^ 196) ^ a := by gcongr; norm_num
        _ = 2 ^ (196 * (a : Int)) := by rw [← pow_mul]; norm_cast
        _ ≤ 2 ^ (59 * k) := zpow_le_zpow_right₀ (by norm_num) hUp
        _ = (2 ^ k) ^ 59 := by rw [mul_comm, zpow_mul]; rfl
    exact (pow_le_pow_iff_left₀ (by positivity) (by positivity) (by decide)).mp hPowers
  · have hPowers : ((10 : ℚ) ^ (-(a : Int))) ^ 28 ≤ (2 ^ k) ^ 28 := by
      calc ((10 : ℚ) ^ (-(a : Int))) ^ 28 = ((10 ^ 28) ^ a)⁻¹ := by
            rw [zpow_neg, zpow_natCast, inv_pow, pow_right_comm]
        _ ≤ ((2 ^ 93) ^ a)⁻¹ := by gcongr; norm_num
        _ = 2 ^ (93 * -(a : Int)) := by rw [← pow_mul, mul_neg, zpow_neg]; norm_cast
        _ ≤ 2 ^ (28 * k) := zpow_le_zpow_right₀ (by norm_num) hDown
        _ = (2 ^ k) ^ 28 := by rw [mul_comm, zpow_mul]; rfl
    exact (pow_le_pow_iff_left₀ (by positivity) (by positivity) (by decide)).mp hPowers

/-- The place that is found is reached by the fraction. -/
theorem ten_zpow_leadingPlace_le {num den : Nat} (hNum : num ≠ 0) (hDen : den ≠ 0)
    (hGreatest : (num.log2 : Int) - den.log2 ≤ 10000)
    (hLeast : -10000 ≤ (num.log2 : Int) - den.log2) :
    (10 : ℚ) ^ leadingPlace num den ≤ num / den := by
  have hReached (p : Int) (h : (compareFractions (powerOfTen p).1 (powerOfTen p).2 num den).isLE =
      true) : (10 : ℚ) ^ p ≤ num / den := by
    rw [← powerOfTen_eq]
    exact (isLE_compareFractions (powerOfTen_den_pos p) (Nat.pos_of_ne_zero hDen)).mp h
  rw [leadingPlace]
  dsimp only
  split
  · exact hReached _ ‹_›
  · split
    · exact hReached _ ‹_›
    · split
      · exact hReached _ ‹_›
      · -- The last place is not tried: it is low enough.
        refine le_trans ?_ (quotient_bounds hNum hDen).1.le
        exact ten_zpow_le_two_zpow (by omega) (by omega)

theorem ten_zpow_leadingPlace_magnitude_le {x : Binary64} (hForm : x.Canonical)
    (hSome : 0 < x.mantissa) :
    (10 : ℚ) ^ leadingPlace x.magnitude.1 x.magnitude.2 ≤ x.size := by
  have hDen := x.magnitude_den_pos
  have hSize := x.magnitude_eq
  have hUnit : (0 : ℚ) < 2 ^ x.exponent := by positivity
  have hOne : (1 : ℚ) ≤ x.mantissa := by exact_mod_cast hSome
  have hMantissa : (x.mantissa : ℚ) < 2 ^ 53 := by exact_mod_cast hForm.mantissa_lt
  have hLow : (2 : ℚ) ^ x.exponent ≤ x.size := le_mul_of_one_le_left hUnit.le hOne
  have hHigh : x.size < 2 ^ (53 + x.exponent) := by
    rw [zpow_add₀ (by norm_num), size]
    exact mul_lt_mul_of_pos_right hMantissa hUnit
  have hNum : x.magnitude.1 ≠ 0 := by
    intro hZero
    rw [hZero, Nat.cast_zero, zero_div] at hSize
    linarith
  obtain ⟨hLow', hHigh'⟩ := quotient_bounds hNum hDen.ne'
  rw [hSize] at hLow' hHigh'
  have hGreatest := two_zpow_lt_iff.mp (hLow'.trans hHigh)
  have hLeast := two_zpow_lt_iff.mp (hLow.trans_lt hHigh')
  have hTop := hForm.greatest
  have hBottom := hForm.least
  rw [← hSize]
  exact ten_zpow_leadingPlace_le hNum hDen.ne' (by omega) (by omega)

/-- The place is lowered until some point of the grid reads back, which happens seventeen places
below the first at the latest. -/
theorem readsBack_shortest {x : Binary64} (hForm : x.Canonical) (hSome : 0 < x.mantissa) :
    x.readsBack (x.shortest.1 * (powerOfTen x.shortest.2).1) (powerOfTen x.shortest.2).2 =
      true := by
  have hFound : ((List.range 18).map fun (count : Nat) =>
      leadingPlace x.magnitude.1 x.magnitude.2 - count).findSome? (fun place =>
        (x.gridPoint? place).map fun digits => (digits, place)) = some x.shortest := by
    have hFirst := ten_zpow_leadingPlace_magnitude_le hForm hSome
    have hFine : (10 : ℚ) ^ (leadingPlace x.magnitude.1 x.magnitude.2 - (17 : Nat)) <
        2 ^ x.exponent / 2 := by
      have hMantissa : (x.mantissa : ℚ) < 2 ^ 53 := by exact_mod_cast hForm.mantissa_lt
      have hUnit : (0 : ℚ) < 2 ^ x.exponent := by positivity
      rw [size] at hFirst
      have hSize : (x.mantissa : ℚ) * 2 ^ x.exponent < 2 ^ 53 * 2 ^ x.exponent := by gcongr
      rw [zpow_sub₀ (by norm_num), zpow_natCast, div_lt_iff₀ (by positivity)]
      norm_num at hSize ⊢
      linarith
    have hPoint := exists_gridPoint? hSome hFine
    have hSome? : (((List.range 18).map fun (count : Nat) =>
        leadingPlace x.magnitude.1 x.magnitude.2 - count).findSome? fun place =>
          (x.gridPoint? place).map fun digits => (digits, place)).isSome = true := by
      rw [List.findSome?_isSome_iff]
      exact ⟨_, List.mem_map_of_mem (List.mem_range.mpr (by decide : 17 < 18)), by
        rwa [Option.isSome_map]⟩
    obtain ⟨found, hFound⟩ := Option.isSome_iff_exists.mp hSome?
    rw [shortest]
    dsimp only
    rw [hFound, Option.getD_some]
  obtain ⟨place, hPlace, hPoint⟩ := List.exists_of_findSome?_eq_some hFound
  obtain ⟨digits, hDigits, hShortest⟩ := Option.map_eq_some_iff.mp hPoint
  rw [← hShortest]
  exact readsBack_of_gridPoint? hDigits

end Shortest

end KubeInventory.Binary64
