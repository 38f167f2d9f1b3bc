import ConsoleFeed.Number.Shortest

/-!
# Decimal text of binary64 numbers

This file reads a decimal literal as the nearest binary64 number and writes a binary64 number with
its shortest digits. A literal is kept as its runs of digits, so that each grammar decides for
itself which runs may be missing. A style says between which powers of ten a number is written
without an exponent, and which of two equally near decimals stands for it.
-/

namespace ConsoleFeed

/-- The parts of a decimal literal: the sign, the digits before and after the point, and the
exponent. -/
structure DecimalLiteral where
  negative : Bool
  whole : List Char
  fraction : List Char
  exponent : Int

namespace DecimalLiteral

/-- The binary64 number nearest to the literal, or nothing if it is too large. The two comparisons
with the place of the first digit only keep the powers of ten small: whatever lies beyond them is
past the largest number or below half of the smallest one. -/
def nearest? (literal : DecimalLiteral) : Option Binary64 :=
  let digits := (literal.whole ++ literal.fraction).dropWhile (· == '0')
  let lastPlace : Int := literal.exponent - literal.fraction.length
  let firstPlace : Int := lastPlace + digits.length
  if digits.isEmpty then some (Binary64.zero literal.negative)
  else if 400 < firstPlace then none
  else if firstPlace < -400 then some (Binary64.zero literal.negative)
  else
    let number := Digits.decimalNumber digits
    if 0 ≤ lastPlace then Binary64.nearest? literal.negative (number * Nat.pow 10 lastPlace.toNat) 1
    else Binary64.nearest? literal.negative number (Nat.pow 10 (-lastPlace).toNat)

end DecimalLiteral

/-- How a number is laid out: numbers whose first digit stands for a power of ten from `lowestPlain`
to `highestPlain` are written without an exponent, the others with one; a missing bound does not
bind. -/
structure DecimalStyle where
  lowestPlain : Option Int
  highestPlain : Option Int
  tie : DecimalTie

namespace DecimalStyle

/-- No number is written with an exponent, and from the middle a decimal goes away from zero. -/
def plain : DecimalStyle := ⟨none, none, .awayFromZero⟩

/-- Whether a number with the first digit at this power of ten is written without an exponent. -/
def isPlain (style : DecimalStyle) (firstPlace : Int) : Bool :=
  style.lowestPlain.all (· ≤ firstPlace) && style.highestPlain.all (firstPlace ≤ ·)

end DecimalStyle

namespace DecimalForm

/-- The digits with a point in its place, and at least one digit on either side of it. -/
def positional (form : DecimalForm) : List Char :=
  let digits := Digits.decimal form.digits
  if 0 ≤ form.exponent then digits ++ List.replicate form.exponent.toNat '0' ++ ['.', '0']
  else
    let places := (-form.exponent).toNat
    let padded := Digits.padLeft (places + 1) digits
    padded.take (padded.length - places) ++ '.' :: padded.drop (padded.length - places)

/-- The first digit, the others after a point if there are any, and the exponent with its sign. -/
def exponential (form : DecimalForm) : List Char :=
  let digits := Digits.decimal form.digits
  let firstPlace : Int := form.exponent + digits.length - 1
  let tail := digits.drop 1
  let sign := if firstPlace < 0 then '-' else '+'
  digits.take 1 ++ (if tail.isEmpty then [] else '.' :: tail) ++ 'e' :: sign ::
    Digits.decimal firstPlace.natAbs

end DecimalForm

namespace Binary64

/-- The text of a number in a style. -/
def text (style : DecimalStyle) (number : Binary64) : List Char :=
  let sign := if number.negative then ['-'] else []
  if number.significand = 0 then sign ++ ['0', '.', '0']
  else
    let form := number.shortest style.tie
    let firstPlace : Int := form.exponent + (Digits.decimal form.digits).length - 1
    sign ++ if style.isPlain firstPlace then form.positional else form.exponential

end Binary64

end ConsoleFeed
