import ConsoleFeed.Number.Decimal

/-!
# Stepwise reading of decimal literals

A decimal literal can be read with a few operations of the binary64 format, each of which rounds for
itself. The digits are kept as far as they fit in a word of 64 bits. The word is rounded, and what
results is multiplied with or divided by a power of ten, which is rounded too.

Where the word is at most `2 ^ 53` and the power at most `10 ^ 22`, only the last step can round,
and the result is the nearest number. Otherwise it may be one of the numbers beside it.
-/

namespace ConsoleFeed

namespace Binary64

/-- The magnitude as a quotient. -/
def quotient (number : Binary64) : Nat × Nat :=
  if 0 ≤ number.exponent then (number.significand * Nat.pow 2 number.exponent.toNat, 1)
  else (number.significand, Nat.pow 2 (-number.exponent).toNat)

/-- The product with a power of ten, both rounded; nothing if one of them is too large. -/
def timesTen? (number : Binary64) (power : Nat) : Option Binary64 :=
  (nearest? false (Nat.pow 10 power) 1).bind fun ten =>
    nearest? number.negative (number.quotient.1 * ten.quotient.1)
      (number.quotient.2 * ten.quotient.2)

/-- The quotient by a power of ten, both rounded; nothing if the power is too large. -/
def overTen? (number : Binary64) (power : Nat) : Option Binary64 :=
  (nearest? false (Nat.pow 10 power) 1).bind fun ten =>
    nearest? number.negative (number.quotient.1 * ten.quotient.2)
      (number.quotient.2 * ten.quotient.1)

end Binary64

namespace DecimalLiteral

/-- The highest power of ten that a step multiplies with or divides by: it is the highest one of the
format. -/
def highestPower : Nat := 308

/-- Appends digits to a word as long as it does not overflow. What is left starts with the digit
that does not fit. -/
def fill (word : Nat) : List Char → Nat × List Char
  | [] => (word, [])
  | digit :: rest =>
      let longer := word * 10 + Digits.decimalNumber [digit]
      if longer < UInt64.size then fill longer rest else (word, digit :: rest)

/-- The word of a literal and the power of ten that belongs to it. A digit before the point that
does not fit counts as a zero, together with those after it; of the digits after the point those
that still fit follow. -/
def word (literal : DecimalLiteral) : Nat × Int :=
  let whole := fill 0 literal.whole
  let all := fill whole.1 literal.fraction
  (all.1, literal.exponent + whole.2.length - (literal.fraction.length - all.2.length))

/-- Divides by a power of ten in steps. After the last step a word is zero, as it is after two
divisions by the highest power. -/
def lower (number : Binary64) : Nat → Nat → Option Binary64
  | 0, _ => some (Binary64.zero number.negative)
  | steps + 1, power =>
      if power ≤ highestPower then number.overTen? power
      else
        (number.overTen? highestPower).bind fun lowered =>
          lower lowered steps (power - highestPower)

/-- The binary64 number that the steps lead to, or nothing if it is too large. -/
def stepwise? (literal : DecimalLiteral) : Option Binary64 :=
  let word := literal.word
  if word.1 = 0 then some (Binary64.zero literal.negative)
  else
    (Binary64.nearest? literal.negative word.1 1).bind fun rounded =>
      if word.2 < 0 then lower rounded 2 (-word.2).toNat
      else if word.2 ≤ highestPower then rounded.timesTen? word.2.toNat
      else none

end DecimalLiteral

end ConsoleFeed
