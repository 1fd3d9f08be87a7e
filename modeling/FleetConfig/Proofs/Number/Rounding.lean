import FleetConfig.Number.Shortest
import Mathlib

/-!
# Which numbers round to a double

The numbers that round to a magnitude lie between the midpoints to its
neighbours, and a midpoint belongs to the even one of the two.  So no number
rounds to two magnitudes.  A grid of seventeen digits is fine enough to have a
point next to each magnitude that rounds to it, so that the search for the
shortest decimal always ends with a decimal that does.
-/

namespace FleetConfig.Binary64

theorem unitsInOne_pos : 0 < unitsInOne := by
  unfold unitsInOne
  generalize 1074 = exponent
  exact Nat.pow_pos (by decide)

theorem unitsInOne_le : unitsInOne ≤ 10 ^ 358 := by
  unfold unitsInOne
  generalize unitExponent : 1074 = exponent
  generalize powerExponent : 358 = power
  calc
    Nat.pow 2 exponent ≤ 2 ^ (3 * power) :=
      Nat.pow_le_pow_right (by decide) (by omega)
    _ = 8 ^ power := by
      rw [Nat.pow_mul]
    _ ≤ 10 ^ power :=
      Nat.pow_le_pow_left (by decide) power

/-- Within a binade and at its end the next magnitude is as far away as the binade says. -/
theorem unitsOf_succ
    (magnitude : Nat) :
    unitsOf (magnitude + 1) =
      unitsOf magnitude + 2 ^ (magnitude / binadeSize - 1) := by
  have size : binadeSize = 4503599627370496 := rfl
  simp only [unitsOf, Nat.pow_eq, size]
  by_cases subnormal : magnitude < 4503599627370496
  · have binade : magnitude / 4503599627370496 = 0 := by omega
    by_cases last : magnitude + 1 = 4503599627370496
    · simp [last, binade, subnormal]
    · have stillSubnormal : magnitude + 1 < 4503599627370496 := by omega
      simp [binade, subnormal, stillSubnormal]
  · have normal : ¬ magnitude + 1 < 4503599627370496 := by omega
    obtain ⟨binade, atBinade⟩ :
        ∃ binade, magnitude / 4503599627370496 = binade + 1 :=
      ⟨magnitude / 4503599627370496 - 1, by omega⟩
    by_cases last : magnitude % 4503599627370496 = 4503599627370495
    · have next : (magnitude + 1) / 4503599627370496 = binade + 2 := by omega
      have place : (magnitude + 1) % 4503599627370496 = 0 := by omega
      simp only [subnormal, normal, ↓reduceIte, atBinade, next, place, last,
        Nat.add_one_sub_one, Nat.pow_succ]
      ring
    · have next : (magnitude + 1) / 4503599627370496 = binade + 1 := by omega
      have place :
          (magnitude + 1) % 4503599627370496 =
            magnitude % 4503599627370496 + 1 := by
        omega
      simp only [subnormal, normal, ↓reduceIte, atBinade, next, place,
        Nat.add_sub_cancel]
      ring

theorem unitsOf_strictMono : StrictMono unitsOf := by
  apply strictMono_nat_of_lt_succ
  intro magnitude
  rw [unitsOf_succ]
  exact Nat.lt_add_of_pos_right (Nat.pow_pos (by decide))

theorem unitsOf_pos
    {magnitude : Nat}
    (positive : 0 < magnitude) :
    0 < unitsOf magnitude := by
  have least : unitsOf 0 = 0 := rfl
  rw [← least]
  exact unitsOf_strictMono positive

/-- A number, counted in units of 2^-1074, rounds to a magnitude. -/
structure RoundsTo
    (magnitude : Nat)
    (size : ℚ) :
    Prop where
  above : (unitsOf (magnitude - 1) + unitsOf magnitude : ℚ) ≤ 2 * size
  below : 2 * size ≤ (unitsOf magnitude + unitsOf (magnitude + 1) : ℚ)
  aboveOfOdd :
    magnitude % 2 = 1 →
    (unitsOf (magnitude - 1) + unitsOf magnitude : ℚ) < 2 * size
  belowOfOdd :
    magnitude % 2 = 1 →
    2 * size < (unitsOf magnitude + unitsOf (magnitude + 1) : ℚ)

namespace RoundsTo

variable {magnitude other : Nat} {size : ℚ}

/-- What lies strictly between the midpoints rounds to the magnitude. -/
theorem of_lt
    (above : (unitsOf (magnitude - 1) + unitsOf magnitude : ℚ) < 2 * size)
    (below : 2 * size < (unitsOf magnitude + unitsOf (magnitude + 1) : ℚ)) :
    RoundsTo magnitude size :=
  ⟨above.le, below.le, fun _ => above, fun _ => below⟩

theorem pos
    (rounds : RoundsTo magnitude size)
    (positive : 0 < magnitude) :
    0 < size := by
  have units : (0 : ℚ) < unitsOf magnitude := by
    exact_mod_cast unitsOf_pos positive
  have least : (0 : ℚ) ≤ unitsOf (magnitude - 1) := Nat.cast_nonneg _
  linarith [rounds.above]

/-- Of two magnitudes that a number rounds to neither is the smaller one. -/
theorem not_lt
    (rounds : RoundsTo magnitude size)
    (otherRounds : RoundsTo other size) :
    ¬ magnitude < other := by
  intro less
  have lower : unitsOf magnitude ≤ unitsOf (other - 1) :=
    unitsOf_strictMono.monotone (by omega)
  have upper : unitsOf (magnitude + 1) ≤ unitsOf other :=
    unitsOf_strictMono.monotone less
  have lowerCast : (unitsOf magnitude : ℚ) ≤ unitsOf (other - 1) := by
    exact_mod_cast lower
  have upperCast : (unitsOf (magnitude + 1) : ℚ) ≤ unitsOf other := by
    exact_mod_cast upper
  have below := rounds.below
  have above := otherRounds.above
  -- The number is the midpoint of two neighbours, and one of them is odd.
  have sameUnits : unitsOf (magnitude + 1) = unitsOf other := by
    have cast : (unitsOf (magnitude + 1) : ℚ) = unitsOf other := by
      linarith
    exact_mod_cast cast
  have neighbour : magnitude + 1 = other :=
    unitsOf_strictMono.injective sameUnits
  rcases Nat.mod_two_eq_zero_or_one magnitude with even | odd
  · have strict := otherRounds.aboveOfOdd (by omega)
    linarith
  · have strict := rounds.belowOfOdd odd
    linarith

/-- No number rounds to two magnitudes. -/
theorem unique
    (rounds : RoundsTo magnitude size)
    (otherRounds : RoundsTo other size) :
    magnitude = other := by
  have notLess := rounds.not_lt otherRounds
  have notMore := otherRounds.not_lt rounds
  omega

end RoundsTo

/-- Nothing rounds to nothing. -/
theorem roundsTo_zero :
    RoundsTo 0 0 := by
  have least : unitsOf 0 = 0 := rfl
  refine ⟨?_, ?_, fun odd => ?_, fun odd => ?_⟩
  · simp [least]
  · rw [mul_zero]
    positivity
  · contradiction
  · contradiction

/-- A power of ten as a fraction of whole numbers, one of which is one. -/
theorem ten_zpow_eq_div
    (exponent : ℤ) :
    (10 : ℚ) ^ exponent =
      ((10 ^ exponent.toNat : Nat) : ℚ) / ((10 ^ (-exponent).toNat : Nat) : ℚ) := by
  rcases Int.le_total 0 exponent with nonnegative | negative
  · obtain ⟨power, rfl⟩ := Int.eq_ofNat_of_zero_le nonnegative
    simp
  · obtain ⟨power, shape⟩ := Int.eq_ofNat_of_zero_le (Int.neg_nonneg.mpr negative)
    obtain rfl : exponent = -(power : ℤ) := by omega
    simp

/-- A decimal reads back as a magnitude exactly if its number of units rounds to it. -/
theorem readsBack_iff
    {magnitude number : Nat}
    {exponent : ℤ} :
    readsBack magnitude number exponent = true ↔
      RoundsTo magnitude (number * 10 ^ exponent * unitsInOne) := by
  have scalePositive : (0 : ℚ) < ((10 ^ (-exponent).toNat : Nat) : ℚ) := by
    positivity
  have size :
      2 * (number * 10 ^ exponent * unitsInOne : ℚ) =
        ((2 * number * 10 ^ exponent.toNat * unitsInOne : Nat) : ℚ) /
          ((10 ^ (-exponent).toNat : Nat) : ℚ) := by
    rw [ten_zpow_eq_div]
    push_cast
    ring
  unfold readsBack
  simp only [Nat.pow_eq]
  rcases Nat.mod_two_eq_zero_or_one magnitude with even | odd
  · rw [if_pos even, Bool.and_eq_true, decide_eq_true_iff, decide_eq_true_iff]
    constructor
    · rintro ⟨above, below⟩
      have notOdd : ¬ magnitude % 2 = 1 := by omega
      refine ⟨?_, ?_, fun isOdd => absurd isOdd notOdd, fun isOdd => absurd isOdd notOdd⟩
      · rw [size, le_div_iff₀ scalePositive]
        exact_mod_cast above
      · rw [size, div_le_iff₀ scalePositive]
        exact_mod_cast below
    · rintro ⟨above, below, -, -⟩
      rw [size, le_div_iff₀ scalePositive] at above
      rw [size, div_le_iff₀ scalePositive] at below
      constructor
      · exact_mod_cast above
      · exact_mod_cast below
  · have notEven : ¬ magnitude % 2 = 0 := by omega
    rw [if_neg notEven, Bool.and_eq_true, decide_eq_true_iff, decide_eq_true_iff]
    constructor
    · rintro ⟨above, below⟩
      apply RoundsTo.of_lt
      · rw [size, lt_div_iff₀ scalePositive]
        exact_mod_cast above
      · rw [size, div_lt_iff₀ scalePositive]
        exact_mod_cast below
    · rintro ⟨-, -, aboveOfOdd, belowOfOdd⟩
      have above := aboveOfOdd odd
      have below := belowOfOdd odd
      rw [size, lt_div_iff₀ scalePositive] at above
      rw [size, div_lt_iff₀ scalePositive] at below
      constructor
      · exact_mod_cast above
      · exact_mod_cast below

/-- A magnitude lies below the end of its binade. -/
theorem unitsOf_lt
    (magnitude : Nat) :
    unitsOf magnitude < 2 * binadeSize * 2 ^ (magnitude / binadeSize - 1) := by
  have powerPositive : 0 < 2 ^ (magnitude / binadeSize - 1) :=
    Nat.pow_pos (by decide)
  have sizePositive : 0 < binadeSize := by decide
  unfold unitsOf
  simp only [Nat.pow_eq]
  split
  case isTrue subnormal =>
    rw [Nat.div_eq_of_lt subnormal]
    omega
  case isFalse =>
    have place := Nat.mod_lt magnitude sizePositive
    exact Nat.mul_lt_mul_of_pos_right (by omega) powerPositive

/-- The gaps around a magnitude are together wider than two steps of a grid of seventeen digits. -/
theorem two_mul_unitsOf_lt
    {magnitude : Nat}
    (positive : 0 < magnitude) :
    2 * unitsOf magnitude + 10 ^ 16 * unitsOf (magnitude - 1) <
      10 ^ 16 * unitsOf (magnitude + 1) := by
  obtain ⟨before, rfl⟩ := Nat.exists_eq_add_one.mpr positive
  have size : binadeSize = 4503599627370496 := rfl
  have gapBelow := unitsOf_succ before
  have gapAbove := unitsOf_succ (before + 1)
  have bound := unitsOf_lt (before + 1)
  rw [Nat.add_sub_cancel, gapAbove]
  by_cases sameBinade : before / binadeSize = (before + 1) / binadeSize
  · rw [sameBinade] at gapBelow
    generalize 2 ^ ((before + 1) / binadeSize - 1) = gap at *
    rw [size] at bound
    omega
  · -- At the first magnitude of a binade the gap below is smaller.
    have first : (before + 1) % binadeSize = 0 := by
      rw [size] at sameBinade ⊢
      omega
    have exact :
        unitsOf (before + 1) =
          binadeSize * 2 ^ ((before + 1) / binadeSize - 1) := by
      unfold unitsOf
      rw [if_neg (by rw [size] at first ⊢; omega), first, Nat.add_zero, Nat.pow_eq]
    have powerPositive : 0 < 2 ^ ((before + 1) / binadeSize - 1) :=
      Nat.pow_pos (by decide)
    have least : 0 < 2 ^ (before / binadeSize - 1) :=
      Nat.pow_pos (by decide)
    generalize 2 ^ ((before + 1) / binadeSize - 1) = gap at *
    rw [size] at exact
    omega

/-- A number has as many digits as the least power of ten above it says. -/
theorem pow_length_toDigits
    {number : Nat}
    (positive : 0 < number) :
    ∃ count,
      (Nat.toDigits 10 number).length = count + 1 ∧
        10 ^ count ≤ number ∧
        number < 10 ^ (count + 1) := by
  obtain ⟨count, length⟩ :=
    Nat.exists_eq_add_one.mpr (Nat.length_toDigits_pos (b := 10) (n := number))
  have fits :=
    (Nat.length_toDigits_le_iff (n := number) (k := count + 1) (by decide : 1 < 10)
      (Nat.succ_pos count)).mp length.le
  refine ⟨count, length, ?_, fits⟩
  rcases Nat.eq_zero_or_pos count with rfl | several
  · exact positive
  · by_contra small
    have shorter :=
      (Nat.length_toDigits_le_iff (n := number) (by decide : 1 < 10) several).mpr
        (Nat.lt_of_not_le small)
    omega

/-- The decimal point stands right after the last power of ten that a positive number reaches. -/
theorem decimalPoint_spec
    {units : Nat}
    (positive : 0 < units) :
    (10 : ℚ) ^ (decimalPoint units - 1) * unitsInOne ≤ units ∧
      (units : ℚ) < 10 ^ decimalPoint units * unitsInOne := by
  have onePositive := unitsInOne_pos
  have fits := unitsInOne_le
  unfold decimalPoint
  generalize unitsInOne = one at *
  generalize powerExponent : 358 = power at *
  generalize shiftExponent : 400 = shift
  have scaled : one ≤ units * Nat.pow 10 shift :=
    calc
      one ≤ 10 ^ power := fits
      _ ≤ 10 ^ shift := Nat.pow_le_pow_right (by decide) (by omega)
      _ ≤ units * 10 ^ shift := Nat.le_mul_of_pos_left _ positive
  obtain ⟨count, length, reached, above⟩ :=
    pow_length_toDigits (Nat.div_pos scaled onePositive)
  rw [Nat.le_div_iff_mul_le onePositive] at reached
  rw [Nat.div_lt_iff_lt_mul onePositive] at above
  have shiftPositive : (0 : ℚ) < 10 ^ shift := by
    positivity
  have powerOfTen :
      ∀ digits : Nat, (10 : ℚ) ^ ((digits : ℤ) - shift) = 10 ^ digits / 10 ^ shift := by
    intro digits
    rw [zpow_sub₀ (by norm_num), zpow_natCast, zpow_natCast]
  have before : ((count + 1 : Nat) : ℤ) - (shift : Nat) - 1 = (count : ℤ) - shift := by
    push_cast
    ring
  have shifted : (400 : ℤ) = shift := by
    omega
  rw [length, shifted, before, powerOfTen, powerOfTen, div_mul_eq_mul_div, div_mul_eq_mul_div,
    div_le_iff₀ shiftPositive, lt_div_iff₀ shiftPositive]
  constructor
  · exact_mod_cast reached
  · exact_mod_cast above

/-- The neighbours of a magnitude on a grid lie on both sides of it, or one lies on it. -/
theorem exists_neighbours
    (magnitude : Nat)
    (exponent : ℤ) :
    ∃ number,
      number ∈ neighbours magnitude exponent ∧
        number + 1 ∈ neighbours magnitude exponent ∧
        (number * (10 ^ exponent * unitsInOne) : ℚ) ≤ unitsOf magnitude ∧
        (unitsOf magnitude : ℚ) < (number + 1) * (10 ^ exponent * unitsInOne) := by
  have onePositive := unitsInOne_pos
  unfold neighbours
  simp only [Nat.pow_eq]
  generalize unitsOf magnitude = units
  generalize unitsInOne = one at *
  have scalePositive : (0 : ℚ) < ((10 ^ (-exponent).toNat : Nat) : ℚ) := by
    positivity
  have denominatorPositive : 0 < one * 10 ^ exponent.toNat := by
    positivity
  have step :
      (10 ^ exponent * one : ℚ) =
        ((one * 10 ^ exponent.toNat : Nat) : ℚ) /
          ((10 ^ (-exponent).toNat : Nat) : ℚ) := by
    rw [ten_zpow_eq_div]
    push_cast
    ring
  have reached :=
    Nat.div_mul_le_self (units * 10 ^ (-exponent).toNat) (one * 10 ^ exponent.toNat)
  have passed :
      units * 10 ^ (-exponent).toNat <
        (units * 10 ^ (-exponent).toNat / (one * 10 ^ exponent.toNat) + 1) *
          (one * 10 ^ exponent.toNat) :=
    (Nat.div_lt_iff_lt_mul denominatorPositive).mp (Nat.lt_succ_self _)
  generalize units * 10 ^ (-exponent).toNat / (one * 10 ^ exponent.toNat) = number at *
  refine ⟨number, ?_, ?_, ?_, ?_⟩
  · split <;> simp
  · split <;> simp
  · rw [step, ← mul_div_assoc, div_le_iff₀ scalePositive]
    exact_mod_cast reached
  · rw [step, ← mul_div_assoc, lt_div_iff₀ scalePositive]
    exact_mod_cast passed

/-- On a grid of seventeen digits a neighbour of a magnitude reads back. -/
theorem exists_readsBack_neighbours
    {magnitude : Nat}
    (positive : 0 < magnitude) :
    ∃ number ∈ neighbours magnitude (decimalPoint (unitsOf magnitude) - 17),
      readsBack magnitude number (decimalPoint (unitsOf magnitude) - 17) =
        true := by
  have gaps := two_mul_unitsOf_lt positive
  have less := unitsOf_strictMono (Nat.sub_lt positive Nat.one_pos)
  have more := unitsOf_strictMono (Nat.lt_succ_self magnitude)
  obtain ⟨reached, -⟩ := decimalPoint_spec (unitsOf_pos positive)
  obtain ⟨number, member, nextMember, atMost, above⟩ :=
    exists_neighbours magnitude (decimalPoint (unitsOf magnitude) - 17)
  have fine :
      (10 ^ 16 * (10 ^ (decimalPoint (unitsOf magnitude) - 17) * unitsInOne) : ℚ) ≤
        unitsOf magnitude := by
    calc
      (10 ^ 16 * (10 ^ (decimalPoint (unitsOf magnitude) - 17) * unitsInOne) : ℚ) =
          10 ^ (decimalPoint (unitsOf magnitude) - 1) * unitsInOne := by
        rw [← mul_assoc, ← zpow_natCast, ← zpow_add₀ (by norm_num)]
        congr 2
        push_cast
        ring
      _ ≤ unitsOf magnitude := reached
  simp only [readsBack_iff, mul_assoc]
  generalize (10 ^ (decimalPoint (unitsOf magnitude) - 17) * unitsInOne : ℚ) = step at *
  have gapsCast :
      (2 * unitsOf magnitude + 10 ^ 16 * unitsOf (magnitude - 1) : ℚ) <
        10 ^ 16 * unitsOf (magnitude + 1) := by
    exact_mod_cast gaps
  have lessCast : (unitsOf (magnitude - 1) : ℚ) < unitsOf magnitude := by
    exact_mod_cast less
  have moreCast : (unitsOf magnitude : ℚ) < unitsOf (magnitude + 1) := by
    exact_mod_cast more
  -- A step of the grid is smaller than the gap, so one of its ends lies in the interval.
  by_cases rounds :
      (unitsOf (magnitude - 1) + unitsOf magnitude : ℚ) < 2 * (number * step)
  · refine ⟨number, member, .of_lt rounds ?_⟩
    linarith
  · refine ⟨number + 1, nextMember, .of_lt ?_ ?_⟩
    · push_cast
      linarith
    · push_cast
      linarith

end FleetConfig.Binary64
