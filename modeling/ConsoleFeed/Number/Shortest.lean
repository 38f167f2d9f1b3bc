import ConsoleFeed.Number.Binary64
import ConsoleFeed.Text.Digits

/-!
# Shortest digits

A binary64 number is written with the fewest decimal digits from which the same number is read back;
of two such numbers the nearer one is taken. If the number lies in the middle between them, a tie
rule decides.

The numbers that are read back as `significand * 2 ^ exponent` form an interval around it. Its ends
are half a place away, at the lower end a quarter where the significand is the smallest one of its
exponent, and they belong to the interval if the significand is even. For 1, 2, ... 17 digits the
two neighbours of the value on the decimal grid are tried; if any point of a grid lies in the
interval, one of them does. All comparisons are between natural numbers: a quarter of a place is the
unit.
-/

namespace ConsoleFeed

/-- Decimal digits of a positive number: it is `digits` times ten to the power `exponent`. -/
structure DecimalForm where
  digits : Nat
  exponent : Int
deriving DecidableEq

/-- Which of two decimals is taken if a number lies in the middle between them: the one with an even
last digit, or the one farther from zero. -/
inductive DecimalTie where
  | toEven
  | awayFromZero
deriving DecidableEq

/-- The decimal taken of `below` and the one after it. -/
def DecimalTie.choose : DecimalTie → Nat → Nat
  | .toEven, below => below + below % 2
  | .awayFromZero, below => below + 1

namespace Binary64

/-- The magnitudes that round to a number, in quarters of its last place. -/
structure RoundingInterval where
  lower : Nat
  middle : Nat
  upper : Nat
  endsIncluded : Bool

/-- The magnitudes that round to the given number. -/
def roundingInterval (number : Binary64) : RoundingInterval :=
  let narrow := number.significand = significandBound / 2 ∧ lowestExponent < number.exponent
  { lower := 4 * number.significand - (if narrow then 1 else 2)
    middle := 4 * number.significand
    upper := 4 * number.significand + 2
    endsIncluded := number.significand % 2 == 0 }

/-- Whether a quotient, in quarters of the last place, is in the interval. -/
def RoundingInterval.contains (interval : RoundingInterval) (numerator denominator : Nat) : Bool :=
  if interval.endsIncluded then
    interval.lower * denominator ≤ numerator && numerator ≤ interval.upper * denominator
  else
    interval.lower * denominator < numerator && numerator < interval.upper * denominator

/-- The exponent of ten of the first digit of a positive quotient. -/
def leadingPlace (numerator denominator : Nat) : Int :=
  if denominator ≤ numerator then
    ((Digits.decimal (numerator / denominator)).length : Int) - 1
  else
    let inverse := (denominator + numerator - 1) / numerator
    let zeros := (Digits.decimal (inverse - 1)).length
    (0 : Int) - zeros

/-- How many quarters of the last place a step of the decimal grid `10 ^ gridExponent` has, as a
quotient. -/
def gridStep (number : Binary64) (gridExponent : Int) : Nat × Nat :=
  let quarter := number.exponent - 2
  let tens := if 0 ≤ gridExponent then Nat.pow 10 gridExponent.toNat else 1
  let tenths := if 0 ≤ gridExponent then 1 else Nat.pow 10 (-gridExponent).toNat
  if 0 ≤ quarter then (tens, tenths * Nat.pow 2 quarter.toNat)
  else (tens * Nat.pow 2 (-quarter).toNat, tenths)

/-- The neighbour of the value on a decimal grid that rounds to the number, if one does. -/
def onGrid? (tie : DecimalTie) (number : Binary64) (gridExponent : Int) : Option Nat :=
  let interval := number.roundingInterval
  let step := number.gridStep gridExponent
  let below := interval.middle * step.2 / step.1
  let above := below + 1
  let belowFits := interval.contains (below * step.1) step.2
  let aboveFits := interval.contains (above * step.1) step.2
  if belowFits && aboveFits then
    let fromBelow := interval.middle * step.2 - below * step.1
    let toAbove := above * step.1 - interval.middle * step.2
    if fromBelow < toAbove then some below
    else if toAbove < fromBelow then some above
    else some (tie.choose below)
  else if belowFits then some below
  else if aboveFits then some above
  else none

/-- Tries grids with one digit more each time. -/
def shortestFrom (tie : DecimalTie) (number : Binary64) (leading : Int) :
    Nat → Nat → DecimalForm
  | 0, count =>
      let gridExponent := leading - count
      ⟨(number.onGrid? tie gridExponent).getD 0, gridExponent⟩
  | attempts + 1, count =>
      let gridExponent := leading - count
      match number.onGrid? tie gridExponent with
      | some digits =>
          if digits = 0 then shortestFrom tie number leading attempts (count + 1)
          else ⟨digits, gridExponent⟩
      | none => shortestFrom tie number leading attempts (count + 1)

/-- Moves zeros at the end of the digits into the exponent. -/
def DecimalForm.withoutTrailingZeros (form : DecimalForm) : Nat → DecimalForm
  | 0 => form
  | attempts + 1 =>
      if form.digits % 10 = 0 ∧ form.digits ≠ 0 then
        DecimalForm.withoutTrailingZeros ⟨form.digits / 10, form.exponent + 1⟩ attempts
      else form

/-- The shortest digits of a number other than zero. -/
def shortest (tie : DecimalTie) (number : Binary64) : DecimalForm :=
  let whole := if 0 ≤ number.exponent then Nat.pow 2 number.exponent.toNat else 1
  let parts := if 0 ≤ number.exponent then 1 else Nat.pow 2 (-number.exponent).toNat
  let leading := leadingPlace (number.significand * whole) parts
  DecimalForm.withoutTrailingZeros (shortestFrom tie number leading 17 0) 17

end Binary64

end ConsoleFeed
