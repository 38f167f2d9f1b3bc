import ConsoleFeed.Number.Decimal

/-!
# JSON5 values

A settings file is written in JSON5, which is read in two steps: the grammar gives a value, in which
texts and numbers are kept as they are written, and a field then takes the value as it needs it.
What is wrong with the grammar refuses the whole file; what is wrong with a number or an escape
shows only if the value is taken.

A value that is no number may be asked for one. What is looked at then are its first two bytes, so a
text, an array and an object keep the character that stands second in them.

This file holds the values and the ways to take a text or a number.
-/

namespace ConsoleFeed.Json5

/-- A part of a text as it is written: a character by itself, a character after a backslash, the
escape of NUL, or a number after `\x` or `\u`. -/
inductive Piece where
  | literal (character : Char)
  | escaped (character : Char)
  | nul
  | byte (number : Nat)
  | unit (number : Nat)
deriving DecidableEq

/-- A number as it is written, after its sign: in hexadecimal digits, in decimal digits, or as a
word. -/
inductive Magnitude where
  | hex (digits : List Char)
  | decimal (whole : List Char) (fraction : Option (List Char)) (exponent : Option Int)
  | infinity
  | nan
deriving DecidableEq

/-- How a number's sign is written. -/
inductive Sign where
  | absent
  | plus
  | minus
deriving DecidableEq

/-- A number as it is written. -/
structure Number where
  sign : Sign
  magnitude : Magnitude
deriving DecidableEq

/-- A value as it is written. Of what is enclosed, `second` is the character after the quote, the
bracket or the brace that opens it, be it a blank or the closing one. -/
inductive Value where
  | null
  | boolean (value : Bool)
  | number (written : Number)
  | text (second : Char) (pieces : List Piece)
  | array (second : Char) (items : List Value)
  | object (second : Char) (members : List (List Piece × Value))

instance : Inhabited Value := ⟨.null⟩

namespace Value

mutual

/-- Whether two values are written alike. -/
def alike : Value → Value → Bool
  | .null, .null => true
  | .boolean value, .boolean other => value == other
  | .number written, .number other => written == other
  | .text second pieces, .text other others => second == other && pieces == others
  | .array second items, .array other others => second == other && itemsAlike items others
  | .object second members, .object other others => second == other && membersAlike members others
  | _, _ => false

/-- Whether the items of two arrays are written alike. -/
def itemsAlike : List Value → List Value → Bool
  | [], [] => true
  | item :: rest, other :: others => alike item other && itemsAlike rest others
  | _, _ => false

/-- Whether the members of two objects are written alike. -/
def membersAlike : List (List Piece × Value) → List (List Piece × Value) → Bool
  | [], [] => true
  | (name, value) :: rest, (otherName, other) :: others =>
      name == otherName && alike value other && membersAlike rest others
  | _, _ => false

end

mutual

theorem alike_iff : ∀ value other : Value, alike value other = true ↔ value = other
  | value, other => by
      cases value <;> cases other <;> simp [alike, itemsAlike_iff, membersAlike_iff]

theorem itemsAlike_iff :
    ∀ items others : List Value, itemsAlike items others = true ↔ items = others
  | [], [] | [], _ :: _ | _ :: _, [] => by simp [itemsAlike]
  | item :: rest, other :: others => by
      simp [itemsAlike, alike_iff item other, itemsAlike_iff rest others]

theorem membersAlike_iff :
    ∀ members others : List (List Piece × Value), membersAlike members others = true ↔
      members = others
  | [], [] | [], _ :: _ | _ :: _, [] => by simp [membersAlike]
  | (name, value) :: rest, (otherName, other) :: others => by
      simp [membersAlike, alike_iff value other, membersAlike_iff rest others]

end

instance : DecidableEq Value := fun value other => decidable_of_iff _ (alike_iff value other)

end Value

/-- The character that stands second in what is enclosed. -/
def Value.second? : Value → Option Char
  | .text second _ => some second
  | .array second _ => some second
  | .object second _ => some second
  | _ => none

/-- Whether the first two bytes of the value end inside a character. The first character is a single
byte, so they do if the second one has more. -/
def Value.splitsCharacter (value : Value) : Bool :=
  value.second?.any (0x80 ≤ ·.toNat)

/-- Why a text or a number cannot be taken. -/
inductive Fault where
  | badHex
  | notANumber
  | numberTooLarge
  | notAnInteger
  | missingTrailSurrogate
  | expectingTrailSurrogate
  | unexpectedTrailSurrogate
deriving DecidableEq

/-- What a fault says. -/
def Fault.message : Fault → String
  | .badHex => "error parsing hex"
  | .notANumber => "error parsing number"
  | .numberTooLarge => "error parsing number: too large"
  | .notAnInteger => "error parsing integer"
  | .missingTrailSurrogate => "missing unicode trail surrogate"
  | .expectingTrailSurrogate => "expecting unicode trail surrogate"
  | .unexpectedTrailSurrogate => "unexpected unicode trail surrogate"

namespace Piece

/-- The character that is meant by a character after a backslash. -/
def meant (character : Char) : Char :=
  match character with
  | 'b' => '\x08'
  | 'f' => '\x0c'
  | 'n' => '\n'
  | 'r' => '\r'
  | 't' => '\t'
  | 'v' => '\x0b'
  | other => other

/-- The number that a part would be if what is written there were hexadecimal digits. -/
def asHex? : Piece → Option Nat
  | .literal character => Digits.hexValue? character
  | .escaped character => Digits.hexValue? character
  | .nul => some 0
  | .byte number => some number
  | .unit number => some number

/-- The character that the two halves of a surrogate pair make. The bits of the first one's offset,
moved up by ten places, are laid over the second one's offset within the plane after the first; a
bit that both have counts once. -/
def joined (lead trail : Nat) : Char :=
  Char.ofNat ((lead - 0xD800) * 0x400 ||| (trail - 0xDC00 + 0x10000))

/-- Puts a character before the characters read after it. -/
def consDecoded (character : Char) : Except Fault (List Char) → Except Fault (List Char)
  | .ok characters => .ok (character :: characters)
  | .error fault => .error fault

/-- The characters that parts of a text mean. The first half of a surrogate pair, once it was read,
waits for its second half, and whatever comes next is taken as that. -/
def decode : Option Nat → List Piece → Except Fault (List Char)
  | none, [] => .ok []
  | some _, [] => .error .missingTrailSurrogate
  | some lead, piece :: rest =>
      match piece.asHex? with
      | none => .error .badHex
      | some trail =>
          if 0xDC00 ≤ trail ∧ trail < 0xE000 then
            consDecoded (joined lead trail) (decode none rest)
          else .error .expectingTrailSurrogate
  | none, .literal character :: rest => consDecoded character (decode none rest)
  | none, .escaped character :: rest => consDecoded (meant character) (decode none rest)
  | none, .nul :: rest => consDecoded '\x00' (decode none rest)
  | none, .byte number :: rest => consDecoded (Char.ofNat number) (decode none rest)
  | none, .unit number :: rest =>
      if 0xDC00 ≤ number ∧ number < 0xE000 then .error .unexpectedTrailSurrogate
      else if 0xD800 ≤ number ∧ number < 0xDC00 then decode (some number) rest
      else consDecoded (Char.ofNat number) (decode none rest)

/-- The text that its parts mean. -/
def text (pieces : List Piece) : Except Fault String :=
  (decode none pieces).map String.ofList

end Piece

/-- A number with the values beyond the finite ones. -/
inductive Extended where
  | finite (value : Binary64)
  | infinite (negative : Bool)
  | nan
deriving DecidableEq

namespace Extended

/-- The whole part, held within zero and the largest allowed number; what is no number counts as
zero. -/
def saturated (largest : Nat) : Extended → Nat
  | .finite value => if value.negative then 0 else min value.truncated largest
  | .infinite negative => if negative then 0 else largest
  | .nan => 0

/-- The number in plain digits. -/
def text : Extended → String
  | .finite value => String.ofList (value.text DecimalStyle.plain)
  | .infinite false => "inf"
  | .infinite true => "-inf"
  | .nan => "NaN"

end Extended

namespace Number

/-- Whether the number has a minus sign. -/
def isNegative (number : Number) : Bool := number.sign = .minus

/-- Hexadecimal digits stand for at most this many numbers. -/
def hexBound : Nat := UInt32.size

/-- The number that hexadecimal digits stand for. -/
def ofHex (digits : List Char) : Except Fault Nat :=
  if Digits.hexNumber digits < hexBound then .ok (Digits.hexNumber digits) else .error .badHex

/-- Takes the number with a fraction. Hexadecimal digits may have no sign, and the words no plus
sign. -/
def extended (number : Number) : Except Fault Extended :=
  match number.magnitude, number.sign with
  | .hex digits, .absent =>
      (ofHex digits).bind fun value =>
        match Binary64.nearest? false value 1 with
        | some nearest => .ok (.finite nearest)
        | none => .error .numberTooLarge
  | .hex _, _ => .error .notANumber
  | .decimal whole fraction exponent, _ =>
      match DecimalLiteral.nearest?
          ⟨number.isNegative, whole, fraction.getD [], exponent.getD 0⟩ with
      | some value => .ok (.finite value)
      | none => .error .numberTooLarge
  | .infinity, .plus => .error .numberTooLarge
  | .infinity, _ => .ok (.infinite number.isNegative)
  | .nan, .plus => .error .numberTooLarge
  | .nan, _ => .ok .nan

/-- What a number is where its kind is not given. -/
inductive Kind where
  | integer (value : Int)
  | float (value : Extended)

/-- Takes a whole number written in decimal digits. -/
def ofDecimal (negative : Bool) (digits : List Char) : Except Fault Kind :=
  let magnitude : Int := Digits.decimalNumber digits
  let value := if negative then -magnitude else magnitude
  if Int64.minValue.toInt ≤ value ∧ value ≤ Int64.maxValue.toInt then .ok (.integer value)
  else .error .notAnInteger

/-- Takes the number where its kind is not given: it is whole if it is written without a point and,
unless it is in hexadecimal digits without a sign, without the letter of an exponent. -/
def classify (number : Number) : Except Fault Kind :=
  match number.magnitude, number.sign with
  | .hex digits, .absent => (ofHex digits).map fun value => .integer value
  | .hex digits, _ =>
      if digits.any fun digit => digit == 'e' || digit == 'E' then .error .notANumber
      else .error .notAnInteger
  | .decimal whole none none, _ => ofDecimal number.isNegative whole
  | .infinity, .plus => .error .notAnInteger
  | .nan, .plus => .error .notAnInteger
  | _, _ => number.extended.map .float

end Number

end ConsoleFeed.Json5
