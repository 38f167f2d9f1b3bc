import ConsoleFeed.Number.Binary64
import Mathlib.Algebra.Order.Field.Power
import Mathlib.Algebra.Order.Floor.Semifield
import Mathlib.Data.Rat.Floor
import Mathlib.Tactic.FieldSimp
import Mathlib.Tactic.Linarith
import Mathlib.Tactic.Positivity

/-!
# Rounding to binary64

The number that `nearest?` gives is the binary64 number nearest to the quotient: no finite number of
the format is nearer, and where another one is as near, the given one has the even significand and
the other one the odd one. So the nearest number is the only one, however it was found.

The quotient is rounded on the grid of the multiples of its last place. A number of the format with
a larger exponent is on the grid, and no point of the grid is nearer than the rounded one. A number
with a smaller exponent has a smaller last place because it lies below the binade of the quotient,
further away than the first point of the grid in that binade.
-/

namespace ConsoleFeed.Binary64

/-- How far a number is from zero. -/
def magnitude (number : Binary64) : ℚ :=
  number.significand * 2 ^ number.exponent

/-- A sign as a factor. -/
def signFactor (negative : Bool) : ℚ :=
  if negative then -1 else 1

/-- What a number stands for. -/
def value (number : Binary64) : ℚ :=
  signFactor number.negative * number.magnitude

/-- The forms that finite numbers have. -/
structure InFormat (number : Binary64) : Prop where
  bounded : number.significand < significandBound
  full : 2 * number.significand < significandBound → number.exponent = lowestExponent
  lowest : lowestExponent ≤ number.exponent
  highest : number.exponent ≤ highestExponent

/-- The number is as near as any finite number, and even if another one is as near. -/
structure IsNearest (number : Binary64) (quantity : ℚ) : Prop where
  inFormat : number.InFormat
  nearest : ∀ other : Binary64, other.InFormat →
    |quantity - number.value| ≤ |quantity - other.value|
  even : ∀ other : Binary64, other.InFormat → other.value ≠ number.value →
    |quantity - other.value| = |quantity - number.value| → number.significand % 2 = 0

section Whole

variable (numerator : Nat) {denominator : Nat}

/-- A quotient is rounded by at most a half, and by a half to an even number only. -/
theorem abs_sub_divideToEven (positive : 0 < denominator) :
    |(numerator / denominator : ℚ) - divideToEven numerator denominator| ≤ 1 / 2 ∧
      (|(numerator / denominator : ℚ) - divideToEven numerator denominator| = 1 / 2 →
        divideToEven numerator denominator % 2 = 0) := by
  have denominatorPositive : (0 : ℚ) < denominator := by exact_mod_cast positive
  have parts : (numerator / denominator : ℚ) =
      (numerator / denominator : Nat) + (numerator % denominator : Nat) / denominator := by
    have whole : (numerator : ℚ) =
        denominator * (numerator / denominator : Nat) + (numerator % denominator : Nat) := by
      exact_mod_cast (Nat.div_add_mod numerator denominator).symm
    rw [whole]
    field_simp
  have below : ((numerator % denominator : Nat) : ℚ) < denominator := by
    exact_mod_cast Nat.mod_lt numerator positive
  simp only [divideToEven]
  rw [parts]
  generalize numerator / denominator = quotient
  generalize numerator % denominator = remainder at below ⊢
  split
  next down =>
    have half : (remainder / denominator : ℚ) < 1 / 2 := by
      rw [div_lt_iff₀ denominatorPositive]
      have : (2 * remainder : ℚ) < denominator := by exact_mod_cast down
      linarith
    have nonnegative : (0 : ℚ) ≤ remainder / denominator := by positivity
    rw [add_sub_cancel_left, abs_of_nonneg nonnegative]
    exact ⟨half.le, fun tie => absurd tie half.ne⟩
  next notDown =>
    split
    next up =>
      have half : 1 / 2 < (remainder / denominator : ℚ) := by
        rw [lt_div_iff₀ denominatorPositive]
        have : (denominator : ℚ) < 2 * remainder := by exact_mod_cast up
        linarith
      have small : (remainder / denominator : ℚ) < 1 := (div_lt_one denominatorPositive).mpr below
      have away : ((quotient : ℚ) + remainder / denominator - (quotient + 1 : Nat)) =
          -(1 - remainder / denominator) := by
        push_cast
        ring
      rw [away, abs_neg, abs_of_pos (by linarith)]
      exact ⟨by linarith, fun tie => by linarith⟩
    next notUp =>
      have half : (remainder / denominator : ℚ) = 1 / 2 := by
        rw [div_eq_iff denominatorPositive.ne']
        have : (2 * remainder : ℚ) = denominator := by exact_mod_cast (by omega)
        linarith
      have even : (quotient + quotient % 2) % 2 = 0 := by omega
      refine ⟨?_, fun _ => even⟩
      rw [half]
      rcases Nat.mod_two_eq_zero_or_one quotient with parity | parity <;> rw [parity] <;>
        norm_num

/-- No whole number is nearer to the quotient, and one that is as near is odd where the rounded one
is even. -/
theorem divideToEven_nearest (positive : 0 < denominator) (whole : Nat) :
    |(numerator / denominator : ℚ) - divideToEven numerator denominator| ≤
        |(numerator / denominator : ℚ) - whole| ∧
      (whole ≠ divideToEven numerator denominator →
        |(numerator / denominator : ℚ) - whole| =
          |(numerator / denominator : ℚ) - divideToEven numerator denominator| →
        divideToEven numerator denominator % 2 = 0 ∧ whole % 2 = 1) := by
  rcases abs_sub_divideToEven numerator positive with ⟨close, even⟩
  generalize divideToEven numerator denominator = rounded at *
  generalize (numerator / denominator : ℚ) = quotient at *
  rcases eq_or_ne whole rounded with rfl | other
  · exact ⟨le_refl _, fun apart => absurd rfl apart⟩
  have apart : (1 : ℚ) ≤ |(rounded : ℚ) - whole| := by
    have different : (rounded : ℤ) - whole ≠ 0 := by omega
    exact_mod_cast Int.one_le_abs different
  have triangle : |(rounded : ℚ) - whole| ≤ |quotient - rounded| + |quotient - whole| := by
    rw [← abs_sub_comm (rounded : ℚ) quotient]
    exact abs_sub_le ..
  refine ⟨by linarith, fun _ tie => ?_⟩
  have half : |quotient - rounded| = 1 / 2 := by linarith
  have next : |(rounded : ℚ) - whole| = 1 := by linarith
  have step : |(rounded : ℤ) - whole| = 1 := by exact_mod_cast next
  have rounding := even half
  refine ⟨rounding, ?_⟩
  rcases (abs_eq (by decide)).mp step with up | down <;> omega

theorem divideToEven_of_dvd (positive : 0 < denominator) (divides : denominator ∣ numerator) :
    divideToEven numerator denominator = numerator / denominator := by
  have remainder : numerator % denominator = 0 := Nat.mod_eq_zero_of_dvd divides
  simp only [divideToEven, remainder, Nat.mul_zero, positive, if_true]

end Whole

section Grid

/-- A quotient in units of a power of two. -/
theorem scale_spec (numerator : Nat) {denominator : Nat} (positive : 0 < denominator)
    (exponent : Int) :
    0 < (scale numerator denominator exponent).2 ∧
      ((scale numerator denominator exponent).1 / (scale numerator denominator exponent).2 : ℚ) =
        numerator / denominator / 2 ^ exponent := by
  have nonzero : (denominator : ℚ) ≠ 0 := by exact_mod_cast positive.ne'
  unfold scale
  split
  next upward =>
    obtain ⟨steps, rfl⟩ := Int.eq_ofNat_of_zero_le upward
    refine ⟨Nat.mul_pos positive (Nat.pow_pos (by decide)), ?_⟩
    simp [div_div]
  next downward =>
    obtain ⟨steps, rfl⟩ : ∃ steps : Nat, exponent = -(steps : Int) := ⟨(-exponent).toNat, by omega⟩
    refine ⟨positive, ?_⟩
    simp
    field_simp

theorem zpow_two_pos (exponent : Int) : (0 : ℚ) < 2 ^ exponent :=
  zpow_pos (by norm_num) exponent

theorem zpow_two_add (first second : Int) : (2 : ℚ) ^ (first + second) = 2 ^ first * 2 ^ second :=
  zpow_add₀ (by norm_num) first second

/-- A whole number lies in the binade that its logarithm tells. -/
theorem log2_binade {number : Nat} (positive : 0 < number) :
    (2 : ℚ) ^ (number.log2 : Int) ≤ number ∧ (number : ℚ) < 2 ^ ((number.log2 : Int) + 1) := by
  constructor
  · rw [zpow_natCast]
    exact_mod_cast Nat.log2_self_le positive.ne'
  · have natural : ((number.log2 : Int) + 1) = ((number.log2 + 1 : Nat) : Int) := rfl
    rw [natural, zpow_natCast]
    exact_mod_cast Nat.lt_log2_self

/-- The quotient lies below the grid's end and, unless the grid is the finest one, in its upper
half. -/
theorem lastPlace_spec {numerator denominator : Nat} (positive : 0 < numerator)
    (positiveDenominator : 0 < denominator) :
    lowestExponent ≤ lastPlace numerator denominator ∧
      (numerator / denominator : ℚ) < 2 ^ 53 * 2 ^ lastPlace numerator denominator ∧
      (lastPlace numerator denominator = lowestExponent ∨
        2 ^ 52 * 2 ^ lastPlace numerator denominator ≤ (numerator / denominator : ℚ)) := by
  rcases log2_binade positive with ⟨numeratorFrom, numeratorTo⟩
  rcases log2_binade positiveDenominator with ⟨denominatorFrom, denominatorTo⟩
  have denominatorPositive : (0 : ℚ) < denominator := by exact_mod_cast positiveDenominator
  simp only [lastPlace]
  generalize estimated : (numerator.log2 : Int) - (denominator.log2 : Int) = estimate
  rcases scale_spec numerator positiveDenominator estimate with ⟨scaledPositive, scaled⟩
  have isAtLeast : (scale numerator denominator estimate).2 ≤
      (scale numerator denominator estimate).1 ↔ 2 ^ estimate ≤ (numerator / denominator : ℚ) := by
    rw [← one_le_div (zpow_two_pos estimate), ← scaled,
      one_le_div (by exact_mod_cast scaledPositive)]
    exact Nat.cast_le.symm
  have upper : (numerator / denominator : ℚ) < 2 ^ (estimate + 1) := by
    rw [div_lt_iff₀ denominatorPositive]
    calc (numerator : ℚ) < 2 ^ ((numerator.log2 : Int) + 1) := numeratorTo
      _ = 2 ^ (estimate + 1) * 2 ^ (denominator.log2 : Int) := by
        rw [← zpow_two_add, ← estimated]
        ring_nf
      _ ≤ 2 ^ (estimate + 1) * denominator :=
        mul_le_mul_of_nonneg_left denominatorFrom (zpow_two_pos _).le
  have lower : 2 ^ (estimate - 1) ≤ (numerator / denominator : ℚ) := by
    rw [le_div_iff₀ denominatorPositive]
    calc (2 : ℚ) ^ (estimate - 1) * denominator
        ≤ 2 ^ (estimate - 1) * 2 ^ ((denominator.log2 : Int) + 1) :=
          mul_le_mul_of_nonneg_left denominatorTo.le (zpow_two_pos _).le
      _ = 2 ^ (numerator.log2 : Int) := by
        rw [← zpow_two_add, ← estimated]
        ring_nf
      _ ≤ numerator := numeratorFrom
  -- Whichever of the two binades it is, the quotient is in it.
  obtain ⟨binade, chosen, from_, to_⟩ : ∃ binade : Int,
      (if (scale numerator denominator estimate).2 ≤ (scale numerator denominator estimate).1
        then estimate else estimate - 1) = binade ∧
      2 ^ binade ≤ (numerator / denominator : ℚ) ∧
      (numerator / denominator : ℚ) < 2 ^ (binade + 1) := by
    by_cases atLeast : 2 ^ estimate ≤ (numerator / denominator : ℚ)
    · exact ⟨estimate, if_pos (isAtLeast.mpr atLeast), atLeast, upper⟩
    · refine ⟨estimate - 1, if_neg (mt isAtLeast.mp atLeast), lower, ?_⟩
      rw [Int.sub_add_cancel]
      exact not_le.mp atLeast
  rw [chosen]
  have scaleUp : ∀ exponent : Nat, ∀ place : Int,
      (2 : ℚ) ^ exponent * 2 ^ place = 2 ^ ((exponent : Int) + place) := by
    intro exponent place
    rw [zpow_two_add, zpow_natCast]
  rw [scaleUp, scaleUp]
  refine ⟨le_max_right .., to_.trans_le (zpow_le_zpow_right₀ (by norm_num) (by omega)), ?_⟩
  rcases max_choice (binade - 52) lowestExponent with high | low
  · refine .inr (le_trans ?_ from_)
    rw [high]
    exact zpow_le_zpow_right₀ (by norm_num) (by omega)
  · exact .inl low

end Grid

/-- How many of its last places a rounded quotient has. -/
def multiple (numerator denominator : Nat) : Nat :=
  divideToEven (scale numerator denominator (lastPlace numerator denominator)).1
    (scale numerator denominator (lastPlace numerator denominator)).2

section Nearest

variable {negative : Bool} {numerator denominator : Nat} {number other : Binary64}

/-- No point of the grid is nearer to the quotient than the rounded one, and one that is as near is
odd where the rounded one is even. -/
theorem multiple_nearest (numerator : Nat) (positive : 0 < denominator) (whole : Nat) :
    |(numerator / denominator : ℚ) -
        multiple numerator denominator * 2 ^ lastPlace numerator denominator| ≤
      |(numerator / denominator : ℚ) - whole * 2 ^ lastPlace numerator denominator| ∧
      (whole ≠ multiple numerator denominator →
        |(numerator / denominator : ℚ) - whole * 2 ^ lastPlace numerator denominator| =
          |(numerator / denominator : ℚ) -
            multiple numerator denominator * 2 ^ lastPlace numerator denominator| →
        multiple numerator denominator % 2 = 0 ∧ whole % 2 = 1) := by
  rcases scale_spec numerator positive (lastPlace numerator denominator) with
    ⟨scaledPositive, scaled⟩
  rcases divideToEven_nearest
    (scale numerator denominator (lastPlace numerator denominator)).1 scaledPositive whole with
    ⟨nearest, even⟩
  rw [scaled] at nearest even
  have unitPositive := zpow_two_pos (lastPlace numerator denominator)
  have inUnits : ∀ points : Nat,
      |(numerator / denominator : ℚ) - points * 2 ^ lastPlace numerator denominator| =
        |(numerator / denominator / 2 ^ lastPlace numerator denominator : ℚ) - points| *
          2 ^ lastPlace numerator denominator := by
    intro points
    rw [← abs_of_pos unitPositive, ← abs_mul, abs_of_pos unitPositive, sub_mul,
      div_mul_cancel₀ _ unitPositive.ne']
  rw [inUnits, inUnits]
  exact ⟨mul_le_mul_of_nonneg_right nearest unitPositive.le,
    fun apart tie => even apart (mul_right_cancel₀ unitPositive.ne' tie)⟩

theorem multiple_bounds (positive : 0 < numerator) (positiveDenominator : 0 < denominator) :
    multiple numerator denominator ≤ 2 ^ 53 ∧
      (lastPlace numerator denominator = lowestExponent ∨
        2 ^ 52 ≤ multiple numerator denominator) := by
  rcases lastPlace_spec positive positiveDenominator with ⟨-, below, inBinade⟩
  rcases scale_spec numerator positiveDenominator (lastPlace numerator denominator) with
    ⟨scaledPositive, scaled⟩
  have unitPositive := zpow_two_pos (lastPlace numerator denominator)
  rw [← div_lt_iff₀ unitPositive, ← scaled] at below
  rw [← le_div_iff₀ unitPositive, ← scaled] at inBinade
  have close := (abs_sub_divideToEven
    (scale numerator denominator (lastPlace numerator denominator)).1 scaledPositive).1
  rcases abs_le.mp close with ⟨notFar, notLow⟩
  refine ⟨?_, inBinade.imp_right fun high => ?_⟩
  · have less : (multiple numerator denominator : ℚ) < (2 ^ 53 + 1 : Nat) := by
      rw [multiple]
      push_cast
      linarith
    exact Nat.le_of_lt_succ (by exact_mod_cast less)
  · have more : ((2 ^ 52 : Nat) : ℚ) < (multiple numerator denominator + 1 : Nat) := by
      rw [multiple]
      push_cast
      linarith
    exact Nat.le_of_lt_succ (by exact_mod_cast more)

/-- The number found stands for the rounded multiple of the last place. A multiple that has one bit
too many is even, and the number has its half with the next exponent. -/
theorem nearest?_eq_some (positive : 0 < numerator) (positiveDenominator : 0 < denominator)
    (found : nearest? negative numerator denominator = some number) :
    number.negative = negative ∧ number.InFormat ∧
      number.magnitude =
        multiple numerator denominator * 2 ^ lastPlace numerator denominator ∧
      (multiple numerator denominator % 2 = 0 → number.significand % 2 = 0) := by
  rcases multiple_bounds positive positiveDenominator with ⟨bounded, full⟩
  rcases lastPlace_spec positive positiveDenominator with ⟨lowest, -, -⟩
  have carries : nearest? negative numerator denominator =
      let carried : Binary64 :=
        if multiple numerator denominator = significandBound then
          ⟨negative, multiple numerator denominator / 2, lastPlace numerator denominator + 1⟩
        else ⟨negative, multiple numerator denominator, lastPlace numerator denominator⟩
      if carried.exponent ≤ highestExponent then some carried else none := by
    rw [nearest?, if_neg positive.ne']
    rfl
  rw [carries] at found
  generalize multiple numerator denominator = points at *
  generalize lastPlace numerator denominator = place at *
  have bound : significandBound = 2 ^ 53 := rfl
  simp only at found
  split at found
  next carry =>
    split at found
    next inRange =>
      cases found
      rw [bound] at carry
      subst carry
      have half : 2 ^ 53 / 2 < significandBound := by decide
      have isFull : ¬ 2 * (2 ^ 53 / 2) < significandBound := by decide
      have even : 2 ^ 53 / 2 % 2 = 0 := by decide
      refine ⟨rfl, ⟨half, fun low => absurd low isFull, ?_, inRange⟩, ?_, fun _ => even⟩
      · exact lowest.trans (Int.le_of_lt (Int.lt_succ place))
      · rw [magnitude, zpow_two_add]
        norm_num
        ring
    next => cases found
  next small =>
    split at found
    next inRange =>
      cases found
      rw [bound] at small
      refine ⟨rfl, ⟨lt_of_le_of_ne bounded small, fun low => ?_, lowest, inRange⟩, rfl, id⟩
      rw [bound] at low
      exact full.resolve_right (by simp only at low; omega)
    next => cases found

theorem eq_zero_of_nearest? (found : nearest? negative 0 denominator = some number) :
    number = zero negative := by
  rw [nearest?, if_pos rfl] at found
  cases found
  rfl

theorem magnitude_zero (negative : Bool) : (zero negative).magnitude = 0 := by
  simp [magnitude, zero]

theorem inFormat_zero (negative : Bool) : (zero negative).InFormat :=
  ⟨by simp [zero, significandBound], fun _ => rfl, le_refl _,
    by simp [zero, lowestExponent, highestExponent]⟩

/-- A number of the format whose last place is no smaller than the grid's is on the grid. -/
theorem magnitude_of_le {place : Int} (coarse : place ≤ other.exponent) :
    other.magnitude =
      (other.significand * 2 ^ (other.exponent - place).toNat : Nat) * 2 ^ place := by
  obtain ⟨steps, exponent⟩ : ∃ steps : Nat, other.exponent = place + steps :=
    ⟨(other.exponent - place).toNat, by omega⟩
  have difference : (other.exponent - place).toNat = steps := by omega
  rw [magnitude, difference, exponent, zpow_two_add, zpow_natCast]
  push_cast
  ring

/-- A number of the format whose last place is smaller than the grid's is below the grid's upper
half. -/
theorem magnitude_lt_of_lt (inFormat : other.InFormat) {place : Int}
    (fine : other.exponent < place) : other.magnitude < 2 ^ 52 * 2 ^ place := by
  have bounded : (other.significand : ℚ) < 2 ^ 53 := by exact_mod_cast inFormat.bounded
  calc other.magnitude
      < 2 ^ 53 * 2 ^ other.exponent :=
        mul_lt_mul_of_pos_right bounded (zpow_two_pos other.exponent)
    _ ≤ 2 ^ 53 * 2 ^ (place - 1) :=
        mul_le_mul_of_nonneg_left (zpow_le_zpow_right₀ (by norm_num) (by omega)) (by norm_num)
    _ = 2 ^ 52 * 2 ^ place := by
        have halved : (2 : ℚ) ^ place = 2 ^ (place - 1) * 2 := by
          rw [← zpow_add_one₀ (by norm_num), Int.sub_add_cancel]
        rw [halved]
        ring

/-- No finite number is nearer in magnitude, and one that is as near is odd where the one found is
even. -/
theorem magnitude_nearest (positiveDenominator : 0 < denominator)
    (found : nearest? negative numerator denominator = some number) (inFormat : other.InFormat) :
    |(numerator / denominator : ℚ) - number.magnitude| ≤
        |(numerator / denominator : ℚ) - other.magnitude| ∧
      (other.magnitude ≠ number.magnitude →
        |(numerator / denominator : ℚ) - other.magnitude| =
          |(numerator / denominator : ℚ) - number.magnitude| →
        number.significand % 2 = 0 ∧ other.significand % 2 = 1) := by
  rcases Nat.eq_zero_or_pos numerator with rfl | positive
  · have isZero : number.magnitude = 0 := by
      rw [nearest?, if_pos rfl] at found
      cases found
      simp [magnitude, zero]
    simp only [isZero, Nat.cast_zero, zero_div, zero_sub, abs_neg, abs_zero, abs_nonneg, true_and]
    exact fun other tie => absurd (abs_eq_zero.mp tie) other
  rcases nearest?_eq_some positive positiveDenominator found with ⟨-, -, onGrid, even⟩
  rw [onGrid]
  by_cases coarse : lastPlace numerator denominator ≤ other.exponent
  · rw [magnitude_of_le coarse]
    rcases multiple_nearest numerator positiveDenominator
      (other.significand * 2 ^ (other.exponent - lastPlace numerator denominator).toNat) with
      ⟨nearest, parity⟩
    refine ⟨nearest, fun apart tie => ?_⟩
    rcases parity (fun same => apart (by rw [same])) tie with ⟨isEven, isOdd⟩
    exact ⟨even isEven, Nat.odd_iff.mp (Nat.odd_mul.mp (Nat.odd_iff.mpr isOdd)).1⟩
  · rcases lastPlace_spec positive positiveDenominator with ⟨-, -, inBinade⟩
    have reached := inBinade.resolve_left fun finest => by
      have := inFormat.lowest
      omega
    have below := magnitude_lt_of_lt inFormat (not_le.mp coarse)
    have first : |(numerator / denominator : ℚ) -
          multiple numerator denominator * 2 ^ lastPlace numerator denominator| ≤
        |(numerator / denominator : ℚ) - 2 ^ 52 * 2 ^ lastPlace numerator denominator| := by
      have nearest := (multiple_nearest numerator positiveDenominator (2 ^ 52)).1
      rwa [Nat.cast_pow, Nat.cast_ofNat] at nearest
    rw [abs_of_nonneg (sub_nonneg.mpr reached)] at first
    rw [abs_of_pos (sub_pos.mpr (below.trans_le reached))]
    exact ⟨by linarith, fun _ tie => by linarith⟩

theorem magnitude_nonneg (number : Binary64) : 0 ≤ number.magnitude :=
  mul_nonneg (Nat.cast_nonneg _) (zpow_two_pos _).le

/-- Where the quotient and a number have one sign, their distance is that of their magnitudes. -/
theorem abs_sub_value_of_same {quantity : ℚ} (sign : other.negative = negative) :
    |signFactor negative * quantity - other.value| = |quantity - other.magnitude| := by
  rw [value, sign, ← mul_sub, abs_mul, signFactor]
  split <;> simp

/-- Where they have different signs, it is the sum of their magnitudes. -/
theorem abs_sub_value_of_ne {quantity : ℚ} (nonnegative : 0 ≤ quantity)
    (sign : other.negative ≠ negative) :
    |signFactor negative * quantity - other.value| = quantity + other.magnitude := by
  have opposite : signFactor other.negative = -signFactor negative := by
    revert sign
    cases other.negative <;> cases negative <;> simp [signFactor]
  have sum := add_nonneg nonnegative other.magnitude_nonneg
  rw [value, opposite, neg_mul, sub_neg_eq_add, ← mul_add, abs_mul, abs_of_nonneg sum, signFactor]
  split <;> simp

/-- The number found has the sign that was asked for, and is one of the format. -/
theorem inFormat_of_nearest? (positiveDenominator : 0 < denominator)
    (found : nearest? negative numerator denominator = some number) :
    number.negative = negative ∧ number.InFormat := by
  rcases Nat.eq_zero_or_pos numerator with rfl | positive
  · cases eq_zero_of_nearest? found
    exact ⟨rfl, inFormat_zero negative⟩
  · rcases nearest?_eq_some positive positiveDenominator found with ⟨sign, inFormat, -, -⟩
    exact ⟨sign, inFormat⟩

/-- The number found is the nearest one, and another one that is as near has an odd significand. -/
theorem nearest?_nearest (positiveDenominator : 0 < denominator)
    (found : nearest? negative numerator denominator = some number) (inFormat : other.InFormat) :
    |signFactor negative * (numerator / denominator : ℚ) - number.value| ≤
        |signFactor negative * (numerator / denominator : ℚ) - other.value| ∧
      (other.value ≠ number.value →
        |signFactor negative * (numerator / denominator : ℚ) - other.value| =
          |signFactor negative * (numerator / denominator : ℚ) - number.value| →
        number.significand % 2 = 0 ∧ other.significand % 2 = 1) := by
  rcases magnitude_nearest positiveDenominator found inFormat with ⟨nearest, parity⟩
  have nonnegative : (0 : ℚ) ≤ numerator / denominator := by positivity
  have sign := (inFormat_of_nearest? positiveDenominator found).1
  rw [abs_sub_value_of_same sign]
  by_cases same : other.negative = negative
  · rw [abs_sub_value_of_same same]
    refine ⟨nearest, fun apart => parity fun equal => apart ?_⟩
    rw [value, value, same, sign, equal]
  · -- A number of the other sign is nowhere as near, unless both are zero.
    rw [abs_sub_value_of_ne nonnegative same]
    have toZero : |(numerator / denominator : ℚ) - number.magnitude| ≤ numerator / denominator := by
      have nearZero := (magnitude_nearest positiveDenominator found (inFormat_zero false)).1
      rwa [magnitude_zero, sub_zero, abs_of_nonneg nonnegative] at nearZero
    have others := other.magnitude_nonneg
    have wide : |(numerator / denominator : ℚ) - other.magnitude| ≤
        numerator / denominator + other.magnitude := abs_le.mpr ⟨by linarith, by linarith⟩
    refine ⟨nearest.trans wide, fun apart tie => parity (fun equal => apart ?_)
      (le_antisymm (wide.trans tie.le) nearest)⟩
    have isZero : number.magnitude = 0 := by
      rw [equal] at tie
      linarith [number.magnitude_nonneg]
    rw [value, value, equal, isZero, mul_zero, mul_zero]

theorem isNearest_of_nearest? (positiveDenominator : 0 < denominator)
    (found : nearest? negative numerator denominator = some number) :
    number.IsNearest (signFactor negative * (numerator / denominator)) where
  inFormat := (inFormat_of_nearest? positiveDenominator found).2
  nearest _ inFormat := (nearest?_nearest positiveDenominator found inFormat).1
  even _ inFormat apart tie := ((nearest?_nearest positiveDenominator found inFormat).2 apart tie).1

/-- Only one number is the nearest. -/
theorem IsNearest.value_eq (positiveDenominator : 0 < denominator)
    (found : nearest? negative numerator denominator = some number)
    (isNearest : other.IsNearest (signFactor negative * (numerator / denominator))) :
    other.value = number.value := by
  by_contra apart
  have unique := isNearest_of_nearest? positiveDenominator found
  have tie := le_antisymm (isNearest.nearest number unique.inFormat)
    (unique.nearest other isNearest.inFormat)
  have odd := ((nearest?_nearest positiveDenominator found isNearest.inFormat).2 apart tie).2
  have even := isNearest.even number unique.inFormat (Ne.symm apart) tie.symm
  omega

/-- A quotient below the last binade is near a finite number. -/
theorem exists_nearest (negative : Bool) (positiveDenominator : 0 < denominator)
    (small : (numerator / denominator : ℚ) < 2 ^ (1023 : Int)) :
    ∃ number, nearest? negative numerator denominator = some number := by
  rcases Nat.eq_zero_or_pos numerator with rfl | positive
  · exact ⟨zero negative, if_pos rfl⟩
  have place : lastPlace numerator denominator + 1 ≤ highestExponent := by
    rcases (lastPlace_spec positive positiveDenominator).2.2 with finest | reached
    · rw [finest]
      decide
    · have below := reached.trans_lt small
      have unit : (2 : ℚ) ^ 52 = 2 ^ (52 : Int) := rfl
      rw [unit, ← zpow_two_add] at below
      have exponents := (zpow_lt_zpow_iff_right₀ (by norm_num : (1 : ℚ) < 2)).mp below
      have highest : highestExponent = 971 := rfl
      omega
  rw [nearest?, if_neg positive.ne']
  refine ⟨_, if_pos ?_⟩
  split
  · exact place
  · exact (Int.le_of_lt (Int.lt_succ _)).trans place

end Nearest

section WholeNumbers

variable {whole : Nat} {negative : Bool} {number : Binary64}

/-- How far apart the numbers of the format are that have as many bits as the given one, or one if
that is less. -/
def spacing (whole : Nat) : Nat :=
  2 ^ (whole.log2 - 52)

/-- A whole number rounded to a multiple of the spacing. -/
def spaced (whole : Nat) : Nat :=
  divideToEven whole (spacing whole) * spacing whole

theorem spacing_pos (whole : Nat) : 0 < spacing whole :=
  Nat.pow_pos (by decide)

/-- Exactly the multiples of the spacing stay as they are. -/
theorem spaced_eq_iff (whole : Nat) : spaced whole = whole ↔ spacing whole ∣ whole := by
  constructor
  · exact fun same => Dvd.intro_left _ same
  · intro divides
    rw [spaced, divideToEven_of_dvd whole (spacing_pos whole) divides, Nat.div_mul_cancel divides]

/-- Up to `2 ^ 53` every whole number is in the format. -/
theorem spacing_dvd_of_le (small : whole ≤ 2 ^ 53) : spacing whole ∣ whole := by
  rcases Nat.lt_or_eq_of_le small with below | rfl
  · have narrow : whole.log2 - 52 = 0 := by
      rcases Nat.eq_zero_or_pos whole with rfl | positive
      · rfl
      · have := (Nat.log2_lt positive.ne').mpr below
        omega
    rw [spacing, narrow, pow_zero]
    exact Nat.one_dvd whole
  · decide

theorem lastPlace_whole (positive : 0 < whole) : lastPlace whole 1 = (whole.log2 : Int) - 52 := by
  have reached : 1 * Nat.pow 2 whole.log2 ≤ whole := by
    rw [Nat.one_mul]
    exact Nat.log2_self_le positive.ne'
  have one : Nat.log2 1 = 0 := rfl
  simp only [lastPlace, scale, one, Int.natCast_nonneg, if_true, Nat.cast_zero, sub_zero]
  rw [Int.toNat_natCast, if_pos reached]
  have lowest : lowestExponent = -1074 := rfl
  omega

/-- The number nearest to a whole number is that number rounded to a multiple of the spacing. -/
theorem magnitude_of_whole (found : nearest? negative whole 1 = some number) :
    number.magnitude = spaced whole := by
  rcases Nat.eq_zero_or_pos whole with rfl | positive
  · rw [eq_zero_of_nearest? found, magnitude_zero]
    rfl
  rcases nearest?_eq_some positive Nat.one_pos found with ⟨-, -, onGrid, -⟩
  rw [onGrid, multiple, lastPlace_whole positive]
  by_cases wide : 52 ≤ whole.log2
  · obtain ⟨steps, bits⟩ : ∃ steps : Nat, whole.log2 = steps + 52 := ⟨whole.log2 - 52, by omega⟩
    have place : ((whole.log2 : Int) - 52) = (steps : Int) := by omega
    have scaled : scale whole 1 (steps : Int) = (whole, 2 ^ steps) := by
      simp [scale]
    have step : spacing whole = 2 ^ steps := by rw [spacing, bits, Nat.add_sub_cancel]
    rw [place, scaled, spaced, step, zpow_natCast]
    push_cast
    rfl
  · obtain ⟨steps, place⟩ : ∃ steps : Nat, ((whole.log2 : Int) - 52) = -(steps + 1 : Nat) :=
      ⟨51 - whole.log2, by omega⟩
    have scaled : scale whole 1 (-(steps + 1 : Nat)) = (whole * 2 ^ (steps + 1), 1) := by
      rw [scale, if_neg (by omega), neg_neg, Int.toNat_natCast]
      rfl
    have step : spacing whole = 1 := by rw [spacing, Nat.sub_eq_zero_of_le (by omega), pow_zero]
    have same : spaced whole = whole := (spaced_eq_iff whole).mpr (step ▸ Nat.one_dvd whole)
    rw [place, scaled, divideToEven_of_dvd _ Nat.one_pos (Nat.one_dvd _), Nat.div_one, same,
      zpow_neg, zpow_natCast]
    push_cast
    exact mul_inv_cancel_right₀ (by positivity) _

theorem truncated_eq_floor (number : Binary64) : number.truncated = ⌊number.magnitude⌋₊ := by
  rw [truncated, magnitude]
  split
  next upward =>
    obtain ⟨steps, exponent⟩ := Int.eq_ofNat_of_zero_le upward
    have whole : (number.significand * 2 ^ number.exponent : ℚ) =
        (number.significand * 2 ^ steps : Nat) := by
      rw [exponent, zpow_natCast]
      push_cast
      rfl
    rw [whole, Nat.floor_natCast, exponent, Int.toNat_natCast]
    rfl
  next downward =>
    obtain ⟨steps, exponent⟩ : ∃ steps : Nat, number.exponent = -(steps : Int) :=
      ⟨(-number.exponent).toNat, by omega⟩
    have quotient : (number.significand * 2 ^ number.exponent : ℚ) =
        number.significand / (2 ^ steps : Nat) := by
      rw [exponent, zpow_neg, zpow_natCast, ← div_eq_mul_inv]
      push_cast
      rfl
    rw [quotient, Nat.floor_div_eq_div, exponent, neg_neg, Int.toNat_natCast]
    rfl

end WholeNumbers

end ConsoleFeed.Binary64
