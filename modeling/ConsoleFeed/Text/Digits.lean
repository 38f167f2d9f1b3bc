/-!
# Digits

Numbers are written in decimal or hexadecimal digits. This file reads and writes runs of digits over
lists of characters; what may stand around a run is the business of each grammar.
-/

namespace ConsoleFeed.Digits

/-- The value of a decimal digit. -/
def decimalValue? (character : Char) : Option Nat :=
  if '0' ≤ character ∧ character ≤ '9' then some (character.toNat - '0'.toNat) else none

/-- The value of a hexadecimal digit of either case. -/
def hexValue? (character : Char) : Option Nat :=
  if '0' ≤ character ∧ character ≤ '9' then some (character.toNat - '0'.toNat)
  else if 'a' ≤ character ∧ character ≤ 'f' then some (character.toNat - 'a'.toNat + 10)
  else if 'A' ≤ character ∧ character ≤ 'F' then some (character.toNat - 'A'.toNat + 10)
  else none

/-- Whether a character is a decimal digit. -/
def isDecimal (character : Char) : Bool :=
  (decimalValue? character).isSome

/-- Whether a character is a hexadecimal digit. -/
def isHex (character : Char) : Bool :=
  (hexValue? character).isSome

/-- The number that the digits continue, each found by `valueOf` in the given base; characters
that are no digits count as zero. -/
def foldValue (base : Nat) (valueOf : Char → Option Nat) (digits : List Char) : Nat :=
  digits.foldl (fun number digit => number * base + (valueOf digit).getD 0) 0

/-- The number written in decimal digits. -/
def decimalNumber (digits : List Char) : Nat :=
  foldValue 10 decimalValue? digits

/-- The number written in hexadecimal digits. -/
def hexNumber (digits : List Char) : Nat :=
  foldValue 16 hexValue? digits

/-- The number that decimal digits write, after a plus sign if there is one, unless it is above the
largest one allowed. There must be a digit, and there may be nothing else. -/
def unsigned? (largest : Nat) (characters : List Char) : Option Nat :=
  let digits := match characters with
    | '+' :: rest => rest
    | _ => characters
  if digits.isEmpty || !digits.all isDecimal || largest < decimalNumber digits then none
  else some (decimalNumber digits)

/-- Splits off the longest run of characters of a class. -/
def span (isMember : Char → Bool) (characters : List Char) : List Char × List Char :=
  (characters.takeWhile isMember, characters.dropWhile isMember)

/-- The bytes that pairs of hexadecimal digits give; what is no digit counts as zero. -/
def hexBytes : List Char → List UInt8
  | high :: low :: rest =>
      UInt8.ofNat ((hexValue? high).getD 0 * 16 + (hexValue? low).getD 0) :: hexBytes rest
  | _ => []

/-- The decimal digits of a number; zero has one. -/
def decimal (number : Nat) : List Char :=
  Nat.toDigits 10 number

/-- The lower-case hexadecimal digits of a number; zero has one. -/
def hex (number : Nat) : List Char :=
  Nat.toDigits 16 number

/-- The decimal digits of a whole number, after a minus sign if it is below zero. -/
def signed : Int → List Char
  | .ofNat number => decimal number
  | .negSucc number => '-' :: decimal (number + 1)

/-- Fills up with zeros on the left to the given length. -/
def padLeft (length : Nat) (digits : List Char) : List Char :=
  List.replicate (length - digits.length) '0' ++ digits

end ConsoleFeed.Digits
