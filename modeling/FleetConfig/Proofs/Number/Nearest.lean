import FleetConfig.Proofs.Number.Rounding

/-!
# Decimals are read as the nearest double

A decimal is scaled to whole units of its binade and divided with rounding.  The
quotient counts magnitudes within the binade, so the magnitude that it leads to is
the one that the decimal rounds to, and the last magnitude of a binade is followed
by the first one of the next.
-/

namespace FleetConfig.Binary64

/-- Twice a fraction lies within one of twice its rounded quotient, strictly if that is odd. -/
structure QuotientRounds
    (numerator denominator quotient : Nat) :
    Prop where
  above : 2 * quotient * denominator ≤ 2 * numerator + denominator
  below : 2 * numerator ≤ 2 * quotient * denominator + denominator
  aboveOfOdd :
    quotient % 2 = 1 →
    2 * quotient * denominator < 2 * numerator + denominator
  belowOfOdd :
    quotient % 2 = 1 →
    2 * numerator < 2 * quotient * denominator + denominator

/-- Division rounds to the nearest whole number and halves to the even one. -/
theorem quotientRounds_roundedQuotient
    (numerator : Nat)
    {denominator : Nat}
    (positive : 0 < denominator) :
    QuotientRounds numerator denominator
      (roundedQuotient numerator denominator) := by
  have whole := Nat.div_add_mod' numerator denominator
  have small := Nat.mod_lt numerator positive
  unfold roundedQuotient
  dsimp only
  generalize numerator % denominator = remainder at *
  generalize numerator / denominator = quotient at *
  subst whole
  have here : 2 * quotient * denominator = 2 * (quotient * denominator) :=
    Nat.mul_assoc 2 quotient denominator
  have next :
      2 * (quotient + 1) * denominator =
        2 * (quotient * denominator) + 2 * denominator := by
    ring
  generalize quotient * denominator = reached at *
  split_ifs with down up
  · exact ⟨by omega, by omega, fun _ => by omega, fun _ => by omega⟩
  · exact ⟨by omega, by omega, fun _ => by omega, fun _ => by omega⟩
  · rcases Nat.mod_two_eq_zero_or_one quotient with even | odd
    · rw [even, Nat.add_zero]
      exact ⟨by omega, by omega, fun _ => by omega, fun _ => by omega⟩
    · rw [odd]
      exact ⟨by omega, by omega, fun _ => by omega, fun _ => by omega⟩

theorem roundedQuotient_bounds
    {numerator denominator low high : Nat}
    (positive : 0 < denominator)
    (reached : low * denominator ≤ numerator)
    (passed : numerator < high * denominator) :
    low ≤ roundedQuotient numerator denominator ∧
      roundedQuotient numerator denominator ≤ high := by
  have atLeast : low ≤ numerator / denominator :=
    (Nat.le_div_iff_mul_le positive).mpr reached
  have less : numerator / denominator < high :=
    (Nat.div_lt_iff_lt_mul positive).mpr passed
  unfold roundedQuotient
  dsimp only
  split_ifs
  · omega
  · omega
  · omega

/-- Magnitudes that are counted through a binade, its end included, have as many units each. -/
theorem unitsOf_inBinade
    {shift place : Nat}
    (withinBinade : place ≤ 2 * binadeSize)
    (normal : shift = 0 ∨ binadeSize ≤ place) :
    unitsOf (shift * binadeSize + place) = place * 2 ^ shift := by
  have size : 0 < binadeSize := by decide
  unfold unitsOf
  simp only [Nat.pow_eq]
  by_cases subnormal : place < binadeSize
  · obtain rfl := normal.resolve_right (Nat.not_le_of_lt subnormal)
    simp [subnormal]
  · have notSubnormal : ¬ shift * binadeSize + place < binadeSize := by omega
    rw [if_neg notSubnormal]
    obtain ⟨rest, rfl⟩ := Nat.exists_eq_add_of_le (Nat.le_of_not_lt subnormal)
    rcases Nat.lt_or_ge rest binadeSize with inside | atEnd
    · have binade :
          (shift * binadeSize + (binadeSize + rest)) / binadeSize = shift + 1 := by
        rw [← Nat.add_assoc, ← Nat.succ_mul, Nat.mul_comm,
          Nat.mul_add_div size, Nat.div_eq_of_lt inside, Nat.add_zero]
      have offset :
          (shift * binadeSize + (binadeSize + rest)) % binadeSize = rest := by
        rw [← Nat.add_assoc, ← Nat.succ_mul, Nat.mul_comm,
          Nat.mul_add_mod, Nat.mod_eq_of_lt inside]
      rw [binade, offset, Nat.add_sub_cancel]
    · obtain rfl : rest = binadeSize := by omega
      have shape :
          shift * binadeSize + (binadeSize + binadeSize) =
            binadeSize * (shift + 2) := by
        ring
      rw [shape, Nat.mul_div_cancel_left _ size, Nat.mul_mod_right, Nat.add_zero]
      change binadeSize * 2 ^ (shift + 1) = _
      ring

section Binade

variable
  {numerator denominator shift place : Nat}
  (positive : 0 < denominator)
  (rounds : QuotientRounds numerator (denominator * 2 ^ shift) place)
  (withinBinade : place ≤ 2 * binadeSize)
  (reached :
    shift = 0 ∨
      binadeSize ≤ place ∧
        binadeSize * (denominator * 2 ^ shift) ≤ numerator)

include withinBinade in
/-- The gap above a magnitude is as wide as those in its binade, or wider at the end. -/
theorem le_unitsOf_next
    (normal : shift = 0 ∨ binadeSize ≤ place) :
    (place + 1) * 2 ^ shift ≤
      unitsOf (shift * binadeSize + place + 1) := by
  have size : 1 ≤ binadeSize := by decide
  rcases Nat.lt_or_ge place (2 * binadeSize) with inside | atEnd
  · have units :=
      unitsOf_inBinade inside (normal.imp id Nat.le_succ_of_le)
    rw [Nat.add_assoc, units]
  · obtain rfl : place = 2 * binadeSize := by omega
    have units :
        unitsOf ((shift + 1) * binadeSize + (binadeSize + 1)) =
          (binadeSize + 1) * 2 ^ (shift + 1) :=
      unitsOf_inBinade (by omega) (.inr (Nat.le_succ binadeSize))
    have shape :
        shift * binadeSize + 2 * binadeSize + 1 =
          (shift + 1) * binadeSize + (binadeSize + 1) := by
      ring
    rw [shape, units, Nat.pow_succ]
    have more : 2 * binadeSize + 1 ≤ (binadeSize + 1) * 2 := by omega
    calc
      (2 * binadeSize + 1) * 2 ^ shift ≤
          (binadeSize + 1) * 2 * 2 ^ shift :=
        Nat.mul_le_mul_right _ more
      _ = (binadeSize + 1) * (2 ^ shift * 2) := by
        ring

include rounds withinBinade reached in
/-- A fraction lies above the midpoint to the magnitude before, if its quotient is rounded. -/
theorem previous_midpoint_le :
    (unitsOf (shift * binadeSize + place - 1) + place * 2 ^ shift) *
          denominator ≤
        2 * numerator ∧
      (place % 2 = 1 →
        (unitsOf (shift * binadeSize + place - 1) + place * 2 ^ shift) *
            denominator <
          2 * numerator) := by
  have even : binadeSize % 2 = 0 := by decide
  rcases Nat.eq_zero_or_pos place with rfl | notFirst
  · -- There is nothing before zero.
    obtain rfl : shift = 0 :=
      reached.resolve_right fun normal => absurd normal.1 (by decide)
    have least : unitsOf (0 * binadeSize + 0 - 1) = 0 := by
      rw [Nat.zero_mul]
      rfl
    rw [least]
    simp
  · obtain ⟨before, rfl⟩ := Nat.exists_eq_add_one.mpr notFirst
    by_cases inside : shift = 0 ∨ binadeSize ≤ before
    · have units :=
        unitsOf_inBinade (Nat.le_of_succ_le withinBinade) inside
      have midpoint :
          (before * 2 ^ shift + (before + 1) * 2 ^ shift) * denominator +
              denominator * 2 ^ shift =
            2 * (before + 1) * (denominator * 2 ^ shift) := by
        ring
      have above := rounds.above
      have aboveOfOdd := rounds.aboveOfOdd
      rw [← Nat.add_assoc, Nat.add_sub_cancel, units]
      rw [← midpoint] at above aboveOfOdd
      exact ⟨by omega, fun odd => by have := aboveOfOdd odd; omega⟩
    · -- At the start of a binade the gap below is smaller.
      rw [not_or] at inside
      obtain ⟨fits, whole⟩ := reached.resolve_left inside.1
      obtain first : before + 1 = binadeSize := by omega
      have units :
          unitsOf (shift * binadeSize + (before + 1)) =
            (before + 1) * 2 ^ shift :=
        unitsOf_inBinade withinBinade (.inr fits)
      have smaller :
          unitsOf (shift * binadeSize + (before + 1) - 1) ≤
            (before + 1) * 2 ^ shift := by
        rw [← units]
        exact unitsOf_strictMono.monotone (Nat.sub_le _ _)
      refine ⟨?_, fun odd => ?_⟩
      · calc
          (unitsOf (shift * binadeSize + (before + 1) - 1) +
                (before + 1) * 2 ^ shift) * denominator ≤
              ((before + 1) * 2 ^ shift + (before + 1) * 2 ^ shift) *
                denominator :=
            Nat.mul_le_mul_right _ (Nat.add_le_add_right smaller _)
          _ = 2 * ((before + 1) * (denominator * 2 ^ shift)) := by
            ring
          _ ≤ 2 * numerator :=
            Nat.mul_le_mul_left 2 (first ▸ whole)
      · rw [first] at odd
        omega

include rounds withinBinade reached in
/-- A fraction lies below the midpoint to the next magnitude, if its quotient is rounded. -/
theorem le_next_midpoint :
    2 * numerator ≤
        (place * 2 ^ shift + unitsOf (shift * binadeSize + place + 1)) *
          denominator ∧
      (place % 2 = 1 →
        2 * numerator <
          (place * 2 ^ shift + unitsOf (shift * binadeSize + place + 1)) *
            denominator) := by
  have midpoint :
      2 * place * (denominator * 2 ^ shift) + denominator * 2 ^ shift ≤
        (place * 2 ^ shift + unitsOf (shift * binadeSize + place + 1)) *
          denominator := by
    have next := le_unitsOf_next withinBinade (reached.imp id And.left)
    calc
      2 * place * (denominator * 2 ^ shift) + denominator * 2 ^ shift =
          (place * 2 ^ shift + (place + 1) * 2 ^ shift) * denominator := by
        ring
      _ ≤ _ :=
        Nat.mul_le_mul_right _ (Nat.add_le_add_left next _)
  exact ⟨rounds.below.trans midpoint,
    fun odd => (rounds.belowOfOdd odd).trans_le midpoint⟩

include positive rounds withinBinade reached in
/-- The rounded quotient counts to the magnitude that the fraction rounds to. -/
theorem roundsTo_inBinade :
    RoundsTo (shift * binadeSize + place)
      ((numerator : ℚ) / denominator) := by
  have units :=
    unitsOf_inBinade withinBinade (reached.imp id And.left)
  obtain ⟨above, aboveOfOdd⟩ :=
    previous_midpoint_le rounds withinBinade reached
  obtain ⟨below, belowOfOdd⟩ :=
    le_next_midpoint rounds withinBinade reached
  have parity :
      (shift * binadeSize + place) % 2 = place % 2 := by
    have even : shift * binadeSize = 2 * (shift * 2251799813685248) := by
      change shift * (2 * 2251799813685248) = _
      ring
    rw [even, Nat.mul_add_mod]
  have denominatorPositive : (0 : ℚ) < denominator := by
    exact_mod_cast positive
  rw [← units] at above aboveOfOdd below belowOfOdd
  rw [← parity] at aboveOfOdd belowOfOdd
  refine ⟨?_, ?_, fun odd => ?_, fun odd => ?_⟩
  · rw [mul_div_assoc', le_div_iff₀ denominatorPositive]
    exact_mod_cast above
  · rw [mul_div_assoc', div_le_iff₀ denominatorPositive]
    exact_mod_cast below
  · rw [mul_div_assoc', lt_div_iff₀ denominatorPositive]
    exact_mod_cast aboveOfOdd odd
  · rw [mul_div_assoc', div_lt_iff₀ denominatorPositive]
    exact_mod_cast belowOfOdd odd

end Binade

/-- The nearest magnitude to a fraction is the one that the fraction rounds to. -/
theorem roundsTo_nearestMagnitude
    (numerator : Nat)
    {denominator : Nat}
    (positive : 0 < denominator) :
    RoundsTo (nearestMagnitude numerator denominator)
      (numerator / denominator * unitsInOne) := by
  have counted :
      (numerator / denominator * unitsInOne : ℚ) =
        ((numerator * unitsInOne : Nat) : ℚ) / denominator := by
    push_cast
    ring
  rw [counted]
  unfold nearestMagnitude
  dsimp only
  simp only [Nat.pow_eq]
  generalize numerator * unitsInOne = units
  generalize shiftEq : (units / denominator).log2 - 52 = shift
  have scaledPositive : 0 < denominator * 2 ^ shift :=
    Nat.mul_pos positive (Nat.pow_pos (by decide))
  have rounds := quotientRounds_roundedQuotient units scaledPositive
  have passed : units < 2 * binadeSize * (denominator * 2 ^ shift) := by
    have below : units / denominator < 2 ^ (53 + shift) :=
      Nat.lt_log2_self.trans_le
        (Nat.pow_le_pow_right (by decide) (by omega))
    rw [Nat.div_lt_iff_lt_mul positive, Nat.pow_add] at below
    calc
      units < 2 ^ 53 * 2 ^ shift * denominator := below
      _ = 2 * binadeSize * (denominator * 2 ^ shift) := by
        change _ = 2 ^ 53 * (denominator * 2 ^ shift)
        ring
  rcases Nat.eq_zero_or_pos shift with rfl | normal
  · have nothing : 0 * (denominator * 2 ^ 0) ≤ units := by
      rw [Nat.zero_mul]
      exact Nat.zero_le units
    obtain ⟨-, withinBinade⟩ :=
      roundedQuotient_bounds scaledPositive nothing passed
    exact roundsTo_inBinade positive rounds withinBinade (.inl rfl)
  · have whole : binadeSize * (denominator * 2 ^ shift) ≤ units := by
      have notZero : units / denominator ≠ 0 := by
        intro zero
        rw [zero] at shiftEq
        simp at shiftEq
        omega
      have reached : 2 ^ (52 + shift) ≤ units / denominator := by
        have exponent : 52 + shift = (units / denominator).log2 := by omega
        rw [exponent]
        exact Nat.log2_self_le notZero
      rw [Nat.le_div_iff_mul_le positive, Nat.pow_add] at reached
      calc
        binadeSize * (denominator * 2 ^ shift) =
            2 ^ 52 * 2 ^ shift * denominator := by
          change 2 ^ 52 * (denominator * 2 ^ shift) = _
          ring
        _ ≤ units := reached
    obtain ⟨fits, withinBinade⟩ :=
      roundedQuotient_bounds scaledPositive whole passed
    exact roundsTo_inBinade positive rounds withinBinade (.inr ⟨fits, whole⟩)

/-- A number that reaches a magnitude does not round to a smaller one. -/
theorem RoundsTo.le_of_unitsOf_le
    {magnitude other : Nat}
    {size : ℚ}
    (rounds : RoundsTo magnitude size)
    (reaches : (unitsOf other : ℚ) ≤ size) :
    other ≤ magnitude := by
  by_contra less
  have here : unitsOf magnitude < unitsOf (magnitude + 1) :=
    unitsOf_strictMono (Nat.lt_succ_self magnitude)
  have next : unitsOf (magnitude + 1) ≤ unitsOf other :=
    unitsOf_strictMono.monotone (Nat.lt_of_not_le less)
  have hereCast : (unitsOf magnitude : ℚ) < unitsOf (magnitude + 1) := by
    exact_mod_cast here
  have nextCast : (unitsOf (magnitude + 1) : ℚ) ≤ unitsOf other := by
    exact_mod_cast next
  linarith [rounds.below]

/-- What is less than half a unit rounds to nothing. -/
theorem roundsTo_zero_of_lt
    {size : ℚ}
    (nonnegative : 0 ≤ size)
    (small : 2 * size < 1) :
    RoundsTo 0 size := by
  have least : unitsOf 0 = 0 := rfl
  have next : unitsOf (0 + 1) = 1 := by decide
  refine ⟨?_, ?_, fun odd => ?_, fun odd => ?_⟩
  · rw [Nat.zero_sub, least, Nat.cast_zero]
    linarith
  · rw [least, next, Nat.cast_zero, Nat.cast_one]
    linarith
  · contradiction
  · contradiction

/--
A double has a sign and is nearest to a number of units of 2^-1074: the number rounds
to its magnitude, and the double is infinite if that lies past the last finite one.
-/
def IsNearest
    (double : Binary64)
    (negative : Bool)
    (size : ℚ) :
    Prop :=
  ∃ magnitude,
    RoundsTo magnitude size ∧ double = ofMagnitude negative magnitude

theorem IsNearest.unique
    {double other : Binary64}
    {negative : Bool}
    {size : ℚ}
    (nearest : double.IsNearest negative size)
    (otherNearest : other.IsNearest negative size) :
    double = other := by
  obtain ⟨magnitude, rounds, rfl⟩ := nearest
  obtain ⟨otherMagnitude, otherRounds, rfl⟩ := otherNearest
  rw [rounds.unique otherRounds]

theorem ofMagnitude_of_le
    {magnitude : Nat}
    (vast : magnitudeCount ≤ magnitude)
    (negative : Bool) :
    ofMagnitude negative magnitude = .infinite negative :=
  dif_neg (Nat.not_lt_of_le vast)

/-- A number past all finite doubles is nearest to an infinite one. -/
theorem isNearest_infinite
    {magnitude : Nat}
    {size : ℚ}
    (rounds : RoundsTo magnitude size)
    (vast : (unitsOf magnitudeCount : ℚ) ≤ size)
    (negative : Bool) :
    (infinite negative).IsNearest negative size :=
  ⟨magnitude, rounds,
    (ofMagnitude_of_le (rounds.le_of_unitsOf_le vast) negative).symm⟩

/-- Nothing but the infinite double is nearest to a number past all finite ones. -/
theorem IsNearest.eq_infinite
    {double : Binary64}
    {negative : Bool}
    {size : ℚ}
    (nearest : double.IsNearest negative size)
    (vast : (unitsOf magnitudeCount : ℚ) ≤ size) :
    double = .infinite negative := by
  obtain ⟨magnitude, rounds, rfl⟩ := nearest
  exact ofMagnitude_of_le (rounds.le_of_unitsOf_le vast) negative

/-- Powers of ten that are left uncomputed lie past all finite doubles. -/
theorem unitsOf_magnitudeCount_le
    {exponent : Nat}
    (large : 401 ≤ exponent) :
    unitsOf magnitudeCount ≤ 10 ^ exponent * unitsInOne := by
  have bound : unitsOf magnitudeCount ≤ 10 ^ 401 * unitsInOne := by
    decide +kernel
  generalize 401 = least at bound large
  exact bound.trans
    (Nat.mul_le_mul_right _ (Nat.pow_le_pow_right (by decide) large))

theorem cast_unitsInOne_le :
    (unitsInOne : ℚ) ≤ 10 ^ 358 := by
  exact_mod_cast unitsInOne_le

/-- A decimal whose exponent outweighs its digits is less than half a unit. -/
theorem two_mul_lt_one_of_lt
    {digits : Nat}
    {exponent : ℤ}
    (small : exponent < -(400 + (digits.log2 : ℤ))) :
    2 * (digits * 10 ^ exponent * unitsInOne : ℚ) < 1 := by
  have fewDigits : (digits : ℚ) ≤ 2 * 10 ^ digits.log2 := by
    have bound : digits ≤ 2 * 10 ^ digits.log2 :=
      calc
        digits ≤ 2 ^ (digits.log2 + 1) := Nat.lt_log2_self.le
        _ = 2 * 2 ^ digits.log2 := Nat.pow_succ'
        _ ≤ 2 * 10 ^ digits.log2 :=
          Nat.mul_le_mul_left 2 (Nat.pow_le_pow_left (by decide) _)
    exact_mod_cast bound
  have power :
      (10 : ℚ) ^ exponent ≤ (10 ^ (digits.log2 + 358 + 1))⁻¹ := by
    rw [← zpow_natCast, ← zpow_neg]
    exact zpow_le_zpow_right₀ (by norm_num) (by push_cast; omega)
  have fits := cast_unitsInOne_le
  have nonnegative : (0 : ℚ) ≤ unitsInOne := Nat.cast_nonneg _
  generalize digits.log2 = places at *
  generalize (unitsInOne : ℚ) = one at *
  generalize 358 = others at *
  calc
    2 * (digits * 10 ^ exponent * one : ℚ) ≤
        2 * (2 * 10 ^ places * (10 ^ (places + others + 1))⁻¹ *
          10 ^ others) := by
      gcongr
    _ = 4 / 10 := by
      rw [pow_succ, pow_add]
      field_simp
      norm_num
    _ < 1 := by
      norm_num

/-- A decimal is read as the double nearest to it, whatever its exponent is. -/
theorem isNearest_ofDecimal
    (negative : Bool)
    (digits : Nat)
    (exponent : ℤ) :
    (ofDecimal negative digits exponent).IsNearest negative
      (digits * 10 ^ exponent * unitsInOne) := by
  have asFraction :
      (digits * 10 ^ exponent : ℚ) =
        ((digits * 10 ^ exponent.toNat : Nat) : ℚ) /
          ((10 ^ (-exponent).toNat : Nat) : ℚ) := by
    rw [ten_zpow_eq_div]
    push_cast
    ring
  have rounds :=
    roundsTo_nearestMagnitude (digits * 10 ^ exponent.toNat)
      (Nat.pow_pos (by decide) : 0 < 10 ^ (-exponent).toNat)
  rw [← asFraction] at rounds
  unfold ofDecimal
  split_ifs with none large small
  · refine ⟨0, ?_, rfl⟩
    rw [none, Nat.cast_zero, zero_mul, zero_mul]
    exact roundsTo_zero
  · refine isNearest_infinite rounds ?_ negative
    have positive : 1 ≤ digits := Nat.one_le_iff_ne_zero.mpr none
    have noDenominator : (-exponent).toNat = 0 := by omega
    have vast :
        unitsOf magnitudeCount ≤ digits * 10 ^ exponent.toNat * unitsInOne :=
      calc
        unitsOf magnitudeCount ≤ 10 ^ exponent.toNat * unitsInOne :=
          unitsOf_magnitudeCount_le (by omega)
        _ ≤ digits * 10 ^ exponent.toNat * unitsInOne :=
          Nat.mul_le_mul_right _ (Nat.le_mul_of_pos_left _ positive)
    rw [asFraction, noDenominator, Nat.pow_zero, Nat.cast_one, div_one,
      ← Nat.cast_mul]
    exact Nat.cast_le.mpr vast
  · have nonnegative :
        (0 : ℚ) ≤ digits * 10 ^ exponent * unitsInOne :=
      mul_nonneg (mul_nonneg (Nat.cast_nonneg _) (by positivity))
        (Nat.cast_nonneg _)
    exact ⟨0, roundsTo_zero_of_lt nonnegative (two_mul_lt_one_of_lt small), rfl⟩
  · exact ⟨_, rounds, rfl⟩

end FleetConfig.Binary64
