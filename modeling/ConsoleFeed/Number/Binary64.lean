/-!
# Binary64 numbers

A number with a fraction or an exponent, and a whole number that is too large, is kept as the
nearest number of the binary64 format. This file gives the finite numbers of the format and the
rounding of an exact quotient to them: to the nearest one, and from the middle between two to the
one with an even significand.

Everything is computed with natural numbers. A finite number is `significand * 2 ^ exponent`; the
exponent is that of the last place, never below `-1074`, and the significand has 53 bits unless the
exponent is the lowest one. So each magnitude has one form and equality of forms is equality of
numbers.
-/

namespace ConsoleFeed

/-- A finite binary64 number. Zero has a sign. -/
structure Binary64 where
  negative : Bool
  significand : Nat
  exponent : Int
deriving DecidableEq

namespace Binary64

/-- The exponent of the last place of the smallest numbers. -/
def lowestExponent : Int := -1074

/-- The exponent of the last place of the largest numbers. -/
def highestExponent : Int := 971

/-- A significand is below this bound, and at least half of it above the lowest exponent. -/
def significandBound : Nat := Nat.pow 2 53

/-- Zero with the given sign. -/
def zero (negative : Bool) : Binary64 := ⟨negative, 0, lowestExponent⟩

/-- A quotient rounded to the nearest whole number, a half to the even one. -/
def divideToEven (numerator denominator : Nat) : Nat :=
  let quotient := numerator / denominator
  let remainder := numerator % denominator
  if 2 * remainder < denominator then quotient
  else if denominator < 2 * remainder then quotient + 1
  else quotient + quotient % 2

/-- The numerator and the denominator of `numerator / denominator / 2 ^ exponent`. -/
def scale (numerator denominator : Nat) (exponent : Int) : Nat × Nat :=
  if 0 ≤ exponent then (numerator, denominator * Nat.pow 2 exponent.toNat)
  else (numerator * Nat.pow 2 (-exponent).toNat, denominator)

/-- The exponent of the last place that the number nearest to a positive quotient has before a
carry: the quotient divided by `2` to this power is below `2 ^ 53`. -/
def lastPlace (numerator denominator : Nat) : Int :=
  let estimate : Int := (numerator.log2 : Int) - (denominator.log2 : Int)
  let scaled := scale numerator denominator estimate
  let magnitude := if scaled.2 ≤ scaled.1 then estimate else estimate - 1
  max (magnitude - 52) lowestExponent

/-- The number nearest to a quotient, with the given sign; nothing if the quotient is so large that
it rounds past every finite number. -/
def nearest? (negative : Bool) (numerator denominator : Nat) : Option Binary64 :=
  if numerator = 0 then some (zero negative)
  else
    let place := lastPlace numerator denominator
    let scaled := scale numerator denominator place
    let rounded := divideToEven scaled.1 scaled.2
    let number : Binary64 :=
      if rounded = significandBound then ⟨negative, rounded / 2, place + 1⟩
      else ⟨negative, rounded, place⟩
    if number.exponent ≤ highestExponent then some number else none

/-- The whole part of the magnitude. -/
def truncated (number : Binary64) : Nat :=
  if 0 ≤ number.exponent then number.significand * Nat.pow 2 number.exponent.toNat
  else number.significand / Nat.pow 2 (-number.exponent).toNat

/-- Whether the number has no fraction. -/
def isWhole (number : Binary64) : Bool :=
  0 ≤ number.exponent || number.significand % Nat.pow 2 (-number.exponent).toNat == 0

end Binary64

end ConsoleFeed
