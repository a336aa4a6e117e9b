import Mathlib.Algebra.Order.Field.Power
import Mathlib.Algebra.Order.Floor.Semifield
import Mathlib.Data.Rat.Floor
import Mathlib.Tactic.FieldSimp
import Mathlib.Tactic.Linarith
import Mathlib.Tactic.NormNum
import Mathlib.Tactic.Positivity
import WorkflowQueue.Number.Binary64

namespace WorkflowQueue.Binary64

/-!
# Rounding keeps order

The rational number that a binary64 number stands for is its magnitude; an
infinite one is above all rational numbers. Rounding a ratio is monotone, and a
ratio that is a significand of at most 53 bits times a power of two is its own
rounding. Multiplying by a fixed factor and taking the whole part as a 64-bit
word keep the order too.
-/

/-! ## The nearest whole number -/

/-- The nearest whole number is the quotient or the number after it. -/
theorem nearestEven_bounds
    (numerator denominator : Nat) :
    numerator / denominator ≤ nearestEven numerator denominator ∧
      nearestEven numerator denominator ≤ numerator / denominator + 1 := by
  have isBit : numerator / denominator % 2 < 2 := Nat.mod_lt _ (by decide)
  unfold nearestEven
  dsimp only
  split
  · omega
  split
  · omega
  · omega

/-- A whole ratio is its own nearest whole number. -/
theorem nearestEven_mul
    (value : Nat)
    {denominator : Nat}
    (positive : 0 < denominator) :
    nearestEven (value * denominator) denominator = value := by
  unfold nearestEven
  simp [Nat.mul_mod_left, Nat.mul_div_cancel _ positive, positive]

/--
Of two ratios the greater one has no smaller nearest whole number. Where both
quotients are the same, the remainders decide, measured against their
denominators.
-/
theorem nearestEven_mono
    {numerator denominator otherNumerator otherDenominator : Nat}
    (positive : 0 < denominator)
    (otherPositive : 0 < otherDenominator)
    (ordered : numerator * otherDenominator ≤ otherNumerator * denominator) :
    nearestEven numerator denominator ≤
      nearestEven otherNumerator otherDenominator := by
  have quotients :
      numerator / denominator ≤ otherNumerator / otherDenominator := by
    rw [Nat.le_div_iff_mul_le otherPositive]
    refine Nat.le_of_mul_le_mul_right ?_ positive
    calc
      numerator / denominator * otherDenominator * denominator =
          numerator / denominator * denominator * otherDenominator := by ring
      _ ≤ numerator * otherDenominator :=
          Nat.mul_le_mul_right _ (Nat.div_mul_le_self _ _)
      _ ≤ otherNumerator * denominator := ordered
  rcases Nat.lt_or_eq_of_le quotients with less | same
  · have below := (nearestEven_bounds numerator denominator).2
    have above := (nearestEven_bounds otherNumerator otherDenominator).1
    omega
  · have remainders :
        numerator % denominator * otherDenominator ≤
          otherNumerator % otherDenominator * denominator := by
      have whole := Nat.div_add_mod numerator denominator
      have otherWhole := Nat.div_add_mod otherNumerator otherDenominator
      rw [← whole, ← otherWhole, ← same] at ordered
      nlinarith
    have atLeastHalf :
        denominator ≤ 2 * (numerator % denominator) →
          otherDenominator ≤ 2 * (otherNumerator % otherDenominator) := by
      intro half
      refine Nat.le_of_mul_le_mul_right ?_ positive
      nlinarith
    have aboveHalf :
        denominator < 2 * (numerator % denominator) →
          otherDenominator < 2 * (otherNumerator % otherDenominator) := by
      intro half
      refine Nat.lt_of_mul_lt_mul_right (a := denominator) ?_
      nlinarith
    unfold nearestEven
    dsimp only
    rw [← same]
    split_ifs <;> omega

/-! ## The exponent of a ratio -/

/-- A ratio with an exponent taken out of it. -/
theorem scaled_spec
    (numerator : Nat)
    {denominator : Nat}
    (positive : 0 < denominator)
    (exponent : Int) :
    0 < (scaled numerator denominator exponent).2 ∧
      ((scaled numerator denominator exponent).1 : ℚ) =
        (numerator / denominator : ℚ) / 2 ^ exponent *
          (scaled numerator denominator exponent).2 := by
  have denominatorPositive : (0 : ℚ) < denominator := by exact_mod_cast positive
  unfold scaled
  split
  case isTrue atLeastZero =>
    obtain ⟨power, rfl⟩ := Int.eq_ofNat_of_zero_le atLeastZero
    constructor
    · simp [positive]
    · simp
      field_simp
  case isFalse belowZero =>
    obtain ⟨power, rfl⟩ : ∃ power : Nat, exponent = -power :=
      ⟨(-exponent).toNat, by omega⟩
    constructor
    · simpa using positive
    · simp
      field_simp

/--
The exponent at which a positive rational number has a significand of 53 bits,
or the least exponent, where the significand may be shorter.
-/
structure IsExponentOf
    (value : ℚ)
    (exponent : Int) : Prop where
  least : leastExponent ≤ exponent
  below : value < 2 ^ 53 * 2 ^ exponent
  normal : exponent = leastExponent ∨ 2 ^ 52 * 2 ^ exponent ≤ value

/-- Greater numbers have no smaller exponents. -/
theorem IsExponentOf.mono
    {value other : ℚ}
    {exponent otherExponent : Int}
    (isExponent : IsExponentOf value exponent)
    (otherIsExponent : IsExponentOf other otherExponent)
    (ordered : value ≤ other) :
    exponent ≤ otherExponent := by
  rcases isExponent.normal with isLeast | normal
  · rw [isLeast]
    exact otherIsExponent.least
  · by_contra greater
    have next : otherExponent + 1 ≤ exponent := by omega
    have powers : (2 : ℚ) ^ (otherExponent + 1) ≤ 2 ^ exponent :=
      zpow_le_zpow_right₀ (by norm_num) next
    rw [zpow_add_one₀ (by norm_num)] at powers
    have below := otherIsExponent.below
    linarith

/--
The leading powers of two place a ratio within a factor of two of its exponent.
-/
theorem guess_bounds
    {numerator denominator : Nat}
    (nonzero : numerator ≠ 0)
    (positive : 0 < denominator) :
    let guess : Int := (numerator.log2 : Int) - denominator.log2 - 52
    2 ^ 51 * 2 ^ guess ≤ (numerator / denominator : ℚ) ∧
      (numerator / denominator : ℚ) < 2 ^ 53 * 2 ^ guess := by
  have denominatorPositive : (0 : ℚ) < denominator := by exact_mod_cast positive
  have top : (2 : ℚ) ^ numerator.log2 ≤ numerator := by
    exact_mod_cast Nat.log2_self_le nonzero
  have aboveTop : (numerator : ℚ) < 2 ^ (numerator.log2 + 1) := by
    exact_mod_cast Nat.lt_log2_self
  have bottom : (2 : ℚ) ^ denominator.log2 ≤ denominator := by
    exact_mod_cast Nat.log2_self_le (Nat.pos_iff_ne_zero.mp positive)
  have aboveBottom : (denominator : ℚ) < 2 ^ (denominator.log2 + 1) := by
    exact_mod_cast Nat.lt_log2_self
  have power :
      (2 : ℚ) ^ ((numerator.log2 : Int) - denominator.log2 - 52) * 2 ^ 52 *
          2 ^ denominator.log2 =
        2 ^ numerator.log2 := by
    rw [zpow_sub₀ (by norm_num), zpow_sub₀ (by norm_num)]
    simp
  intro guess
  change (2 : ℚ) ^ guess * 2 ^ 52 * 2 ^ denominator.log2 =
    2 ^ numerator.log2 at power
  have guessPositive : (0 : ℚ) < 2 ^ guess := by positivity
  rw [pow_succ] at aboveTop aboveBottom
  rw [le_div_iff₀ denominatorPositive, div_lt_iff₀ denominatorPositive]
  constructor
  · nlinarith
  · nlinarith

theorem exponentOf_isExponentOf
    {numerator denominator : Nat}
    (nonzero : numerator ≠ 0)
    (positive : 0 < denominator) :
    IsExponentOf (numerator / denominator)
      (exponentOf numerator denominator) := by
  obtain ⟨aboveGuess, belowGuess⟩ := guess_bounds nonzero positive
  unfold exponentOf
  dsimp only
  generalize (numerator.log2 : Int) - denominator.log2 - 52 = guess
    at aboveGuess belowGuess ⊢
  obtain ⟨bottomPositive, isTop⟩ := scaled_spec numerator positive guess
  generalize scaled numerator denominator guess = ratio
    at bottomPositive isTop ⊢
  generalize (numerator / denominator : ℚ) = value
    at aboveGuess belowGuess isTop ⊢
  have settled : ∃ exponent,
      (if ratio.1 < Nat.pow 2 52 * ratio.2 then guess - 1 else guess) =
          exponent ∧
        2 ^ 52 * 2 ^ exponent ≤ value ∧ value < 2 ^ 53 * 2 ^ exponent := by
    refine ⟨_, rfl, ?_⟩
    have compared :
        ratio.1 < Nat.pow 2 52 * ratio.2 ↔ value < 2 ^ 52 * 2 ^ guess := by
      rw [← div_lt_iff₀ (by positivity), ← Nat.cast_lt (α := ℚ), isTop]
      push_cast
      rw [mul_lt_mul_iff_left₀ (by exact_mod_cast bottomPositive)]
      norm_num
    split
    case isTrue small =>
      have less := compared.mp small
      rw [zpow_sub_one₀ (by norm_num)]
      constructor
      · linarith
      · linarith
    case isFalse large =>
      have atLeast := not_lt.mp fun less => large (compared.mpr less)
      exact ⟨atLeast, belowGuess⟩
  obtain ⟨exponent, isExponent, above, below⟩ := settled
  rw [isExponent]
  rcases Int.le_total leastExponent exponent with atLeast | atMost
  · rw [max_eq_left atLeast]
    exact ⟨atLeast, below, Or.inr above⟩
  · rw [max_eq_right atMost]
    refine ⟨le_refl _, ?_, Or.inl rfl⟩
    have powers : (2 : ℚ) ^ exponent ≤ 2 ^ leastExponent :=
      zpow_le_zpow_right₀ (by norm_num) atMost
    linarith

/-! ## Rounding a positive number -/

/--
The significand and the exponent to which a positive rational number is rounded.
-/
structure RoundsTo
    (value : ℚ)
    (significand : Nat)
    (exponent : Int) : Prop where
  isExponent : IsExponentOf value exponent
  nearest :
    ∃ numerator denominator : Nat,
      0 < denominator ∧
        (numerator : ℚ) = value / 2 ^ exponent * denominator ∧
        significand = nearestEven numerator denominator

theorem ofRatio_roundsTo
    (negative : Bool)
    {numerator denominator : Nat}
    (nonzero : numerator ≠ 0)
    (positive : 0 < denominator) :
    ∃ significand exponent,
      RoundsTo (numerator / denominator) significand exponent ∧
        ofRatio negative numerator denominator =
          pack negative significand exponent := by
  have isExponent := exponentOf_isExponentOf nonzero positive
  obtain ⟨bottomPositive, isTop⟩ :=
    scaled_spec numerator positive (exponentOf numerator denominator)
  refine ⟨_, _, ⟨isExponent, _, _, bottomPositive, isTop, rfl⟩, ?_⟩
  rw [ofRatio, if_neg nonzero]

namespace RoundsTo

variable
  {value other : ℚ}
  {significand otherSignificand : Nat}
  {exponent otherExponent : Int}

/-- A number in units of its exponent lies below the significands of 54 bits. -/
theorem significand_le
    (rounds : RoundsTo value significand exponent) :
    significand ≤ 2 ^ 53 := by
  obtain ⟨numerator, denominator, positive, isRatio, isNearest⟩ :=
    rounds.nearest
  have below := rounds.isExponent.below
  rw [← div_lt_iff₀ (by positivity)] at below
  have small : numerator < 2 ^ 53 * denominator := by
    have denominatorPositive : (0 : ℚ) < denominator := by
      exact_mod_cast positive
    have ratioBelow := mul_lt_mul_of_pos_right below denominatorPositive
    rw [← isRatio] at ratioBelow
    exact_mod_cast ratioBelow
  have quotient : numerator / denominator < 2 ^ 53 :=
    Nat.div_lt_of_lt_mul (by linarith)
  have nearest := (nearestEven_bounds numerator denominator).2
  omega

/-- A significand is full unless the exponent is the least one. -/
theorem full
    (rounds : RoundsTo value significand exponent) :
    exponent = leastExponent ∨ 2 ^ 52 ≤ significand := by
  obtain ⟨numerator, denominator, positive, isRatio, isNearest⟩ :=
    rounds.nearest
  refine rounds.isExponent.normal.imp_right fun normal => ?_
  rw [← le_div_iff₀ (by positivity)] at normal
  have large : 2 ^ 52 * denominator ≤ numerator := by
    have denominatorPositive : (0 : ℚ) < denominator := by
      exact_mod_cast positive
    have ratioAbove := mul_le_mul_of_nonneg_right normal denominatorPositive.le
    rw [← isRatio] at ratioAbove
    exact_mod_cast ratioAbove
  have quotient : 2 ^ 52 ≤ numerator / denominator :=
    (Nat.le_div_iff_mul_le positive).mpr large
  have nearest := (nearestEven_bounds numerator denominator).1
  omega

/--
Rounding is monotone. At one exponent the nearest whole numbers are ordered; at
a greater one the significand is full, and what was rounded at the smaller one
is at most that.
-/
theorem mono
    (rounds : RoundsTo value significand exponent)
    (otherRounds : RoundsTo other otherSignificand otherExponent)
    (ordered : value ≤ other) :
    (significand * 2 ^ exponent : ℚ) ≤
      otherSignificand * 2 ^ otherExponent := by
  rcases (rounds.isExponent.mono otherRounds.isExponent ordered).lt_or_eq with
    less | same
  · have bound : (significand : ℚ) ≤ 2 ^ 53 := by
      exact_mod_cast rounds.significand_le
    have isFull : 2 ^ 52 ≤ otherSignificand := by
      refine otherRounds.full.resolve_left fun isLeast => ?_
      have least := rounds.isExponent.least
      omega
    have otherBound : (2 ^ 52 : ℚ) ≤ otherSignificand := by
      exact_mod_cast isFull
    have powers : (2 : ℚ) ^ (exponent + 1) ≤ 2 ^ otherExponent :=
      zpow_le_zpow_right₀ (by norm_num) less
    rw [zpow_add_one₀ (by norm_num)] at powers
    have unitPositive : (0 : ℚ) < 2 ^ exponent := by positivity
    calc
      (significand * 2 ^ exponent : ℚ) ≤ 2 ^ 53 * 2 ^ exponent :=
          mul_le_mul_of_nonneg_right bound unitPositive.le
      _ = 2 ^ 52 * (2 ^ exponent * 2) := by ring
      _ ≤ otherSignificand * 2 ^ otherExponent :=
          mul_le_mul otherBound powers (by positivity) (by positivity)
  · subst same
    obtain ⟨numerator, denominator, positive, isRatio, isNearest⟩ :=
      rounds.nearest
    obtain ⟨otherNumerator, otherDenominator, otherPositive, isOtherRatio,
        isOtherNearest⟩ :=
      otherRounds.nearest
    have crossed :
        numerator * otherDenominator ≤ otherNumerator * denominator := by
      have units : value / 2 ^ exponent ≤ other / 2 ^ exponent :=
        div_le_div_of_nonneg_right ordered (by positivity)
      have denominators :
          (0 : ℚ) ≤ denominator * otherDenominator := by positivity
      have scaledUnits := mul_le_mul_of_nonneg_right units denominators
      have casted :
          (numerator * otherDenominator : ℚ) ≤
            otherNumerator * denominator := by
        rw [isRatio, isOtherRatio]
        linarith
      exact_mod_cast casted
    have nearest : significand ≤ otherSignificand := by
      rw [isNearest, isOtherNearest]
      exact nearestEven_mono positive otherPositive crossed
    have castedNearest : (significand : ℚ) ≤ otherSignificand := by
      exact_mod_cast nearest
    exact mul_le_mul_of_nonneg_right castedNearest (by positivity)

/--
A number that needs at most 53 bits is a whole multiple of the unit of its
exponent. Its own unit is no smaller than that, but for a significand of
`2 ^ 53`, which is half of the next unit's.
-/
theorem exists_whole
    (isExponent : IsExponentOf value exponent)
    {shortSignificand : Nat}
    {shortExponent : Int}
    (short : shortSignificand ≤ 2 ^ 53)
    (least : leastExponent ≤ shortExponent)
    (isValue : value = shortSignificand * 2 ^ shortExponent) :
    ∃ whole : Nat, value = whole * 2 ^ exponent := by
  rcases le_or_gt exponent shortExponent with noGreater | greater
  · obtain ⟨surplus, rfl⟩ := Int.le.dest noGreater
    refine ⟨shortSignificand * 2 ^ surplus, ?_⟩
    rw [isValue, zpow_add₀ (by norm_num), zpow_natCast]
    push_cast
    ring
  · have normal : 2 ^ 52 * 2 ^ exponent ≤ value :=
      isExponent.normal.resolve_left (by omega)
    have next : (2 : ℚ) ^ (shortExponent + 1) ≤ 2 ^ exponent :=
      zpow_le_zpow_right₀ (by norm_num) greater
    rw [zpow_add_one₀ (by norm_num)] at next
    have bound : (shortSignificand : ℚ) ≤ 2 ^ 53 := by exact_mod_cast short
    have unitPositive : (0 : ℚ) < 2 ^ shortExponent := by positivity
    refine ⟨2 ^ 52, le_antisymm ?_ ?_⟩
    · calc
        value ≤ 2 ^ 53 * 2 ^ shortExponent := by
            rw [isValue]
            exact mul_le_mul_of_nonneg_right bound unitPositive.le
        _ = 2 ^ 52 * (2 ^ shortExponent * 2) := by ring
        _ ≤ 2 ^ 52 * 2 ^ exponent :=
          mul_le_mul_of_nonneg_left next (by norm_num)
        _ = (2 ^ 52 : Nat) * 2 ^ exponent := by norm_num
    · push_cast
      exact normal

/-- A number that needs at most 53 bits is its own rounding. -/
theorem exact
    (rounds : RoundsTo value significand exponent)
    {shortSignificand : Nat}
    {shortExponent : Int}
    (short : shortSignificand ≤ 2 ^ 53)
    (least : leastExponent ≤ shortExponent)
    (isValue : value = shortSignificand * 2 ^ shortExponent) :
    (significand * 2 ^ exponent : ℚ) = value := by
  obtain ⟨whole, isWhole⟩ := exists_whole rounds.isExponent short least isValue
  obtain ⟨numerator, denominator, positive, isRatio, isNearest⟩ :=
    rounds.nearest
  have isProduct : numerator = whole * denominator := by
    rw [isWhole, mul_div_cancel_right₀ _ (by positivity)] at isRatio
    exact_mod_cast isRatio
  rw [isNearest, isProduct, nearestEven_mul whole positive, isWhole]

end RoundsTo

/-! ## Magnitudes -/

/--
The rational number of a finite number without its sign. Infinite ones exceed
them all.
-/
def magnitude :
    Binary64 →
    WithTop ℚ
  | .nan => 0
  | .infinite _ => ⊤
  | .finite _ significand exponent =>
      ((significand * 2 ^ exponent : ℚ) : WithTop ℚ)

/-- Whether a number has a minus sign. -/
def isNegative :
    Binary64 →
    Bool
  | .nan => false
  | .infinite negative => negative
  | .finite negative _ _ => negative

/-- What is rounded to this or more has no finite form. -/
def overflow : ℚ :=
  2 ^ 53 * 2 ^ greatestExponent

/-- The power of two with which a significand of 53 bits overflows. -/
theorem RoundsTo.overflow_le_iff
    {value : ℚ}
    {significand : Nat}
    {exponent : Int}
    (rounds : RoundsTo value significand exponent) :
    overflow ≤ significand * 2 ^ exponent ↔
      if significand < 2 ^ 53 then greatestExponent < exponent
      else greatestExponent < exponent + 1 := by
  have unitPositive : (0 : ℚ) < 2 ^ exponent := by positivity
  unfold overflow
  split
  case isTrue isShort =>
    have castedShort : (significand : ℚ) < 2 ^ 53 := by exact_mod_cast isShort
    constructor
    · intro reached
      by_contra noGreater
      have powers : (2 : ℚ) ^ exponent ≤ 2 ^ greatestExponent :=
        zpow_le_zpow_right₀ (by norm_num) (not_lt.mp noGreater)
      nlinarith
    · intro greater
      have isFull : 2 ^ 52 ≤ significand :=
        rounds.full.resolve_left fun isLeast => by
          rw [isLeast] at greater
          exact absurd greater (by decide)
      have castedFull : (2 ^ 52 : ℚ) ≤ significand := by exact_mod_cast isFull
      have powers : (2 : ℚ) ^ (greatestExponent + 1) ≤ 2 ^ exponent :=
        zpow_le_zpow_right₀ (by norm_num) greater
      rw [zpow_add_one₀ (by norm_num)] at powers
      nlinarith
  case isFalse isLong =>
    have isPower : significand = 2 ^ 53 :=
      le_antisymm rounds.significand_le (not_lt.mp isLong)
    rw [isPower, Nat.cast_pow, Nat.cast_ofNat,
      mul_le_mul_iff_right₀ (by norm_num),
      zpow_le_zpow_iff_right₀ (by norm_num)]
    omega

/--
A rounded number is infinite where it overflows, and its own magnitude
elsewhere.
-/
theorem RoundsTo.magnitude_pack
    {value : ℚ}
    {significand : Nat}
    {exponent : Int}
    (rounds : RoundsTo value significand exponent)
    (negative : Bool) :
    magnitude (pack negative significand exponent) =
      if overflow ≤ significand * 2 ^ exponent then ⊤
      else ((significand * 2 ^ exponent : ℚ) : WithTop ℚ) := by
  have reached := rounds.overflow_le_iff
  unfold pack
  by_cases isShort : significand < 2 ^ 53
  · simp only [Nat.pow_eq, isShort, if_true] at reached ⊢
    simp only [reached]
    split
    · rfl
    · rfl
  · have isPower : significand = 2 ^ 53 :=
      le_antisymm rounds.significand_le (not_lt.mp isShort)
    simp only [Nat.pow_eq, isShort, if_false] at reached ⊢
    simp only [reached]
    split
    · rfl
    · have sameProduct :
          ((2 ^ 53 / 2 : Nat) : ℚ) * 2 ^ (exponent + 1) =
            ((2 ^ 53 : Nat) : ℚ) * 2 ^ exponent := by
        have isHalf :
            ((2 ^ 53 : Nat) : ℚ) = ((2 ^ 53 / 2 : Nat) : ℚ) * 2 := by norm_num
        rw [zpow_add_one₀ two_ne_zero, isHalf, mul_assoc, mul_comm (2 : ℚ)]
      rw [magnitude, isPower, sameProduct]

/--
A rounded number is infinite or finite and has the sign that it was given.
-/
theorem ofRatio_cases
    (negative : Bool)
    (numerator denominator : Nat) :
    ofRatio negative numerator denominator = infinite negative ∨
      ∃ significand exponent,
        ofRatio negative numerator denominator =
          finite negative significand exponent := by
  unfold ofRatio
  split
  · exact Or.inr ⟨_, _, rfl⟩
  · unfold pack
    dsimp only
    generalize (if _ < Nat.pow 2 53 then _ else _ : Nat × Int) = shortened
    split
    · exact Or.inl rfl
    · exact Or.inr ⟨_, _, rfl⟩

theorem ofRatio_isNegative
    (negative : Bool)
    (numerator denominator : Nat) :
    (ofRatio negative numerator denominator).isNegative = negative := by
  rcases ofRatio_cases negative numerator denominator with
    isInfinite | ⟨_, _, isFinite⟩
  · rw [isInfinite]
    rfl
  · rw [isFinite]
    rfl

theorem ofRatio_ne_nan
    (negative : Bool)
    (numerator denominator : Nat) :
    ofRatio negative numerator denominator ≠ nan := by
  rcases ofRatio_cases negative numerator denominator with
    isInfinite | ⟨_, _, isFinite⟩
  · rw [isInfinite]
    exact Binary64.noConfusion
  · rw [isFinite]
    exact Binary64.noConfusion

theorem magnitude_nonneg
    (number : Binary64) :
    0 ≤ number.magnitude := by
  cases number with
  | nan => exact le_refl _
  | infinite negative => exact le_top
  | finite negative significand exponent =>
      exact WithTop.coe_nonneg.mpr (by positivity)

/-- Of two ratios the greater one is rounded to no smaller number. -/
theorem magnitude_ofRatio_mono
    (negative otherNegative : Bool)
    {numerator denominator otherNumerator otherDenominator : Nat}
    (positive : 0 < denominator)
    (otherPositive : 0 < otherDenominator)
    (ordered :
      (numerator / denominator : ℚ) ≤ otherNumerator / otherDenominator) :
    (ofRatio negative numerator denominator).magnitude ≤
      (ofRatio otherNegative otherNumerator otherDenominator).magnitude := by
  rcases Nat.eq_zero_or_pos numerator with isZero | nonzero
  · have isNothing :
        (ofRatio negative numerator denominator).magnitude = 0 := by
      simp [ofRatio, isZero, zero, magnitude]
    rw [isNothing]
    exact magnitude_nonneg _
  · have otherNonzero : 0 < otherNumerator := by
      have valuePositive : (0 : ℚ) < numerator / denominator := by positivity
      have otherValuePositive := valuePositive.trans_le ordered
      by_contra isNothing
      rw [Nat.eq_zero_of_not_pos isNothing] at otherValuePositive
      simp at otherValuePositive
    obtain ⟨significand, exponent, rounds, isPacked⟩ :=
      ofRatio_roundsTo negative (Nat.pos_iff_ne_zero.mp nonzero) positive
    obtain ⟨otherSignificand, otherExponent, otherRounds, isOtherPacked⟩ :=
      ofRatio_roundsTo otherNegative (Nat.pos_iff_ne_zero.mp otherNonzero)
        otherPositive
    have roundedOrder := rounds.mono otherRounds ordered
    rw [isPacked, isOtherPacked, rounds.magnitude_pack,
      otherRounds.magnitude_pack]
    split
    case isTrue reached =>
      rw [if_pos (reached.trans roundedOrder)]
    case isFalse =>
      split
      · exact le_top
      · exact WithTop.coe_le_coe.mpr roundedOrder

/-- A ratio that needs at most 53 bits is rounded to itself. -/
theorem magnitude_ofRatio_of_short
    (negative : Bool)
    {numerator denominator short : Nat}
    {exponent : Int}
    (positive : 0 < denominator)
    (isShort : short ≤ 2 ^ 53)
    (least : leastExponent ≤ exponent)
    (isValue : (numerator / denominator : ℚ) = short * 2 ^ exponent)
    (small : (short * 2 ^ exponent : ℚ) < overflow) :
    (ofRatio negative numerator denominator).magnitude =
      ((short * 2 ^ exponent : ℚ) : WithTop ℚ) := by
  rcases Nat.eq_zero_or_pos numerator with isZero | nonzero
  · rw [← isValue, isZero]
    simp [ofRatio, zero, magnitude]
  · obtain ⟨significand, rounded, rounds, isPacked⟩ :=
      ofRatio_roundsTo negative (Nat.pos_iff_ne_zero.mp nonzero) positive
    have isItself := rounds.exact isShort least isValue
    rw [isPacked, rounds.magnitude_pack, isItself, isValue, if_neg small.not_ge]

/-! ## Products -/

theorem ratio_spec
    (significand : Nat)
    (exponent : Int) :
    0 < (ratio significand exponent).2 ∧
      ((ratio significand exponent).1 / (ratio significand exponent).2 : ℚ) =
        significand * 2 ^ exponent := by
  unfold ratio
  split
  case isTrue atLeastZero =>
    obtain ⟨power, rfl⟩ := Int.eq_ofNat_of_zero_le atLeastZero
    simp
  case isFalse belowZero =>
    obtain ⟨power, rfl⟩ : ∃ power : Nat, exponent = -power :=
      ⟨(-exponent).toNat, by omega⟩
    simp [div_eq_mul_inv]

/-- The product of two finite numbers is their exact product, rounded. -/
theorem mul_finite
    (negative otherNegative : Bool)
    (significand otherSignificand : Nat)
    (exponent otherExponent : Int) :
    ∃ numerator denominator : Nat,
      0 < denominator ∧
        (numerator / denominator : ℚ) =
          significand * 2 ^ exponent * (otherSignificand * 2 ^ otherExponent) ∧
        (finite negative significand exponent).mul
            (finite otherNegative otherSignificand otherExponent) =
          ofRatio (negative != otherNegative) numerator denominator := by
  obtain ⟨positive, isRatio⟩ := ratio_spec significand exponent
  obtain ⟨otherPositive, isOtherRatio⟩ :=
    ratio_spec otherSignificand otherExponent
  refine ⟨_, _, Nat.mul_pos positive otherPositive, ?_, rfl⟩
  rw [← isRatio, ← isOtherRatio, Nat.cast_mul, Nat.cast_mul, mul_div_mul_comm]
  rfl

/-- A product is no number or has a minus sign where just one factor has it. -/
theorem mul_isNegative
    (number factor : Binary64) :
    number.mul factor = nan ∨
      (number.mul factor).isNegative =
        (number.isNegative != factor.isNegative) := by
  cases number with
  | nan =>
      exact Or.inl rfl
  | infinite negative =>
      cases factor with
      | nan => exact Or.inl rfl
      | infinite otherNegative => exact Or.inr rfl
      | finite otherNegative significand exponent =>
          by_cases isZero : significand = 0
          · exact Or.inl (by simp [mul, isZero])
          · exact Or.inr (by simp [mul, isZero, isNegative])
  | finite negative significand exponent =>
      cases factor with
      | nan => exact Or.inl rfl
      | infinite otherNegative =>
          by_cases isZero : significand = 0
          · exact Or.inl (by simp [mul, isZero])
          · exact Or.inr (by simp [mul, isZero, isNegative])
      | finite otherNegative otherSignificand otherExponent =>
          exact Or.inr (ofRatio_isNegative _ _ _)

/-- A number that is not negative times another one is not negative. -/
theorem mul_isNegative_of_not
    {number factor : Binary64}
    (unsigned : number.isNegative = false)
    (factorUnsigned : factor.isNegative = false) :
    (number.mul factor).isNegative = false := by
  rcases mul_isNegative number factor with isNan | sign
  · rw [isNan]
    rfl
  · rw [sign, unsigned, factorUnsigned]
    rfl

theorem toWord_of_isNegative
    {number : Binary64}
    (negative : number.isNegative = true) :
    number.toWord = 0 := by
  cases number with
  | nan => rfl
  | infinite sign =>
      cases negative
      rfl
  | finite sign significand exponent =>
      cases negative
      rfl

/-- A number that is not negative times a negative one has no whole part. -/
theorem toWord_mul_of_isNegative
    {number factor : Binary64}
    (unsigned : number.isNegative = false)
    (factorNegative : factor.isNegative = true) :
    (number.mul factor).toWord = 0 := by
  rcases mul_isNegative number factor with isNan | sign
  · rw [isNan]
    rfl
  · apply toWord_of_isNegative
    rw [sign, unsigned, factorNegative]
    rfl

theorem magnitude_mul_infinite
    (number : Binary64)
    (negative : Bool) :
    (number.mul (infinite negative)).magnitude = if number.magnitude = 0 then
      0 else ⊤ := by
  cases number with
  | nan => rfl
  | infinite sign => rfl
  | finite sign significand exponent =>
      have vanishes : (finite sign significand exponent).magnitude = 0 ↔
          significand = 0 := by
        have unit : (2 : ℚ) ^ exponent ≠ 0 := by positivity
        simp [magnitude, unit]
      simp only [vanishes, mul]
      split
      · rfl
      · rfl

theorem magnitude_infinite_mul
    (negative otherNegative : Bool)
    (significand : Nat)
    (exponent : Int) :
    ((infinite negative).mul
        (finite otherNegative significand exponent)).magnitude =
      if significand = 0 then 0 else ⊤ := by
  simp only [mul]
  split
  · rfl
  · rfl

theorem magnitude_finite_mul_of_zero
    (negative otherNegative : Bool)
    (significand : Nat)
    (exponent otherExponent : Int) :
    ((finite negative significand exponent).mul
      (finite otherNegative 0 otherExponent)).magnitude = 0 := by
  obtain ⟨numerator, denominator, positive, isProduct, isRounded⟩ :=
    mul_finite negative otherNegative significand 0 exponent otherExponent
  have isZero : numerator = 0 := by
    have denominatorNonzero : (denominator : ℚ) ≠ 0 := by positivity
    simpa [denominatorNonzero] using isProduct
  rw [isRounded, isZero]
  simp [ofRatio, zero, magnitude]

/-- Multiplying by a fixed factor keeps the order of magnitudes. -/
theorem magnitude_mul_mono
    {number other : Binary64}
    (factor : Binary64)
    (isNumber : number ≠ nan)
    (otherIsNumber : other ≠ nan)
    (ordered : number.magnitude ≤ other.magnitude) :
    (number.mul factor).magnitude ≤ (other.mul factor).magnitude := by
  match factor, number, other with
  | _, nan, _ => exact absurd rfl isNumber
  | _, _, nan => exact absurd rfl otherIsNumber
  | nan, infinite _, infinite _ => exact le_refl _
  | nan, infinite _, finite _ _ _ => exact le_refl _
  | nan, finite _ _ _, infinite _ => exact le_refl _
  | nan, finite _ _ _, finite _ _ _ => exact le_refl _
  | infinite negative, number, other =>
      rw [magnitude_mul_infinite, magnitude_mul_infinite]
      by_cases nonzero : number.magnitude = 0
      · rw [if_pos nonzero]
        split
        · exact le_refl _
        · exact le_top
      · have otherNonzero : other.magnitude ≠ 0 := fun isZero =>
          nonzero (le_antisymm (isZero ▸ ordered) (magnitude_nonneg number))
        rw [if_neg nonzero, if_neg otherNonzero]
  | finite _ significand exponent, infinite _, infinite _ =>
      rw [magnitude_infinite_mul, magnitude_infinite_mul]
  | finite _ _ _, infinite _, finite _ _ _ =>
      exact absurd (top_le_iff.mp ordered) (WithTop.coe_ne_top)
  | finite _ significand exponent, finite _ _ _, infinite _ =>
      rw [magnitude_infinite_mul]
      split
      case isTrue isZero =>
        rw [isZero, magnitude_finite_mul_of_zero]
      case isFalse => exact le_top
  | finite sign significand exponent, finite negative own ownExponent,
      finite otherNegative its itsExponent =>
      obtain ⟨numerator, denominator, positive, isProduct, isRounded⟩ :=
        mul_finite negative sign own significand ownExponent exponent
      obtain ⟨otherNumerator, otherDenominator, otherPositive, isOtherProduct,
          isOtherRounded⟩ :=
        mul_finite otherNegative sign its significand itsExponent exponent
      rw [isRounded, isOtherRounded]
      apply magnitude_ofRatio_mono _ _ positive otherPositive
      rw [isProduct, isOtherProduct]
      exact mul_le_mul_of_nonneg_right (WithTop.coe_le_coe.mp ordered)
        (by positivity)

/-! ## Whole parts -/

/-- The greatest 64-bit number. -/
def greatestWord : Nat := 18446744073709551615

/-- The whole part of a magnitude as a 64-bit number. -/
def wholeWord :
    WithTop ℚ →
    Nat
  | none => greatestWord
  | some value => min ⌊value⌋₊ greatestWord

theorem wholeWord_mono :
    Monotone wholeWord := by
  intro first second ordered
  match first, second with
  | none, none => exact le_refl _
  | none, some _ => exact absurd (top_le_iff.mp ordered) (WithTop.coe_ne_top)
  | some _, none => exact min_le_right _ _
  | some _, some _ =>
      exact min_le_min_right _ (Nat.floor_mono (WithTop.coe_le_coe.mp ordered))

/--
A number that is not negative is cut down to the whole part of its magnitude.
-/
theorem toWord_eq_wholeWord
    {number : Binary64}
    (unsigned : number.isNegative = false) :
    number.toWord.toNat = wholeWord number.magnitude := by
  cases number with
  | nan =>
      decide
  | infinite negative =>
      cases unsigned
      rfl
  | finite negative significand exponent =>
      cases unsigned
      obtain ⟨positive, isRatio⟩ := ratio_spec significand exponent
      have isFloor :
          ⌊(significand * 2 ^ exponent : ℚ)⌋₊ =
            (ratio significand exponent).1 /
              (ratio significand exponent).2 := by
        rw [← isRatio, Nat.floor_div_eq_div]
      change (UInt64.ofNat _).toNat =
        min ⌊(significand * 2 ^ exponent : ℚ)⌋₊ greatestWord
      rw [isFloor, UInt64.toNat_ofNat_of_lt']
      · rfl
      · exact Nat.lt_of_le_of_lt (min_le_right _ _) (by decide)

theorem wholeWord_natCast
    (value : Nat) :
    wholeWord ((value : ℚ) : WithTop ℚ) = min value greatestWord := by
  change min ⌊(value : ℚ)⌋₊ greatestWord = min value greatestWord
  rw [Nat.floor_natCast]

/-! ## Whole numbers -/

theorem ofNat_isNegative
    (value : Nat) :
    (ofNat value).isNegative = false :=
  ofRatio_isNegative false value 1

theorem magnitude_ofNat_mono :
    Monotone fun value => (ofNat value).magnitude := by
  intro first second ordered
  apply magnitude_ofRatio_mono false false Nat.one_pos Nat.one_pos
  rw [Nat.cast_one, div_one, div_one]
  exact Nat.cast_le.mpr ordered

/--
Significands of at most 53 bits are far from overflowing at small exponents.
-/
theorem short_lt_overflow
    {short : Nat}
    (isShort : short ≤ 2 ^ 53)
    {exponent : Int}
    (small : exponent < greatestExponent) :
    (short * 2 ^ exponent : ℚ) < overflow := by
  have bound : (short : ℚ) ≤ 2 ^ 53 := by exact_mod_cast isShort
  have powers : (2 : ℚ) ^ exponent < 2 ^ greatestExponent :=
    zpow_lt_zpow_right₀ (by norm_num) small
  have unitPositive : (0 : ℚ) < 2 ^ exponent := by positivity
  unfold overflow
  nlinarith

/-- A whole number that needs at most 53 bits is represented exactly. -/
theorem ofNat_of_short
    {value : Nat}
    (isShort : value ≤ 2 ^ 53) :
    ∃ significand exponent,
      ofNat value = finite false significand exponent ∧
        (significand * 2 ^ exponent : ℚ) = value := by
  have isMagnitude :
      (ofNat value).magnitude = ((value * 2 ^ (0 : Int) : ℚ) : WithTop ℚ) :=
    magnitude_ofRatio_of_short false Nat.one_pos isShort (by decide) (by simp)
      (short_lt_overflow isShort (by decide))
  have unsigned := ofNat_isNegative value
  have isNumber : ofNat value ≠ nan := ofRatio_ne_nan false value 1
  cases isForm : ofNat value with
  | nan => exact absurd isForm isNumber
  | infinite negative =>
      rw [isForm] at isMagnitude
      exact absurd isMagnitude.symm WithTop.coe_ne_top
  | finite negative significand exponent =>
      rw [isForm] at isMagnitude unsigned
      cases unsigned
      refine ⟨significand, exponent, rfl, ?_⟩
      simpa using WithTop.coe_injective isMagnitude

/-- Twice a whole number that needs at most 53 bits is exact. -/
theorem toWord_double
    {value : Nat}
    (isShort : value ≤ 2 ^ 53) :
    ((ofNat value).mul (ofNat 2)).toWord.toNat = 2 * value := by
  obtain ⟨significand, exponent, isForm, isValue⟩ := ofNat_of_short isShort
  have twoIsShort : 2 ≤ 2 ^ 53 := by norm_num
  obtain ⟨two, twoExponent, isTwoForm, isTwo⟩ := ofNat_of_short twoIsShort
  obtain ⟨numerator, denominator, positive, isProduct, isRounded⟩ :=
    mul_finite false false significand two exponent twoExponent
  have isDouble : (numerator / denominator : ℚ) = value * 2 ^ (1 : Int) := by
    rw [isProduct, isValue, isTwo, zpow_one, Nat.cast_ofNat]
  have isMagnitude :=
    magnitude_ofRatio_of_short (false != false) positive isShort (by decide)
      isDouble (short_lt_overflow isShort (by decide))
  rw [toWord_eq_wholeWord (mul_isNegative_of_not (ofNat_isNegative _)
    (ofNat_isNegative _)), isForm, isTwoForm, isRounded, isMagnitude]
  have isWhole : (value * 2 ^ (1 : Int) : ℚ) = ((2 * value : Nat) : ℚ) := by
    push_cast
    ring
  rw [isWhole, wholeWord_natCast, min_eq_left]
  unfold greatestWord
  omega

/--
A factor of one or more takes nothing from a whole number that needs at most 53
bits.
-/
theorem le_toWord_mul
    {value : Nat}
    (isShort : value ≤ 2 ^ 53)
    {significand : Nat}
    {exponent : Int}
    (atLeastOne : (1 : ℚ) ≤ significand * 2 ^ exponent) :
    value ≤
      ((ofNat value).mul (finite false significand exponent)).toWord.toNat := by
  obtain ⟨own, ownExponent, isForm, isValue⟩ := ofNat_of_short isShort
  obtain ⟨numerator, denominator, positive, isProduct, isRounded⟩ :=
    mul_finite false false own significand ownExponent exponent
  have noSmaller :
      ((value : Nat) / (1 : Nat) : ℚ) ≤ numerator / denominator := by
    rw [isProduct, isValue, Nat.cast_one, div_one]
    exact le_mul_of_one_le_right (Nat.cast_nonneg value) atLeastOne
  have magnitudes :
      (ofNat value).magnitude ≤
        (ofRatio (false != false) numerator denominator).magnitude :=
    magnitude_ofRatio_mono false (false != false) Nat.one_pos positive noSmaller
  have isMagnitude : (ofNat value).magnitude = ((value : ℚ) : WithTop ℚ) := by
    rw [isForm]
    exact congrArg _ isValue
  rw [toWord_eq_wholeWord (mul_isNegative_of_not (ofNat_isNegative value) rfl),
    isForm, isRounded]
  calc
    value = wholeWord ((value : ℚ) : WithTop ℚ) := by
        rw [wholeWord_natCast, min_eq_left]
        unfold greatestWord
        omega
    _ ≤ wholeWord (ofRatio (false != false) numerator denominator).magnitude :=
        wholeWord_mono (isMagnitude ▸ magnitudes)

/--
The whole part of a product with a fixed factor grows with the whole number.
-/
theorem toWord_mul_mono
    (factor : Binary64) :
    Monotone fun value => ((ofNat value).mul factor).toWord.toNat := by
  intro first second ordered
  cases sign : factor.isNegative with
  | true =>
      simp only [toWord_mul_of_isNegative (ofNat_isNegative _) sign, le_refl]
  | false =>
      simp only [toWord_eq_wholeWord
        (mul_isNegative_of_not (ofNat_isNegative _) sign)]
      exact wholeWord_mono
        (magnitude_mul_mono factor (ofRatio_ne_nan _ _ _) (ofRatio_ne_nan _ _ _)
          (magnitude_ofNat_mono ordered))

end WorkflowQueue.Binary64
