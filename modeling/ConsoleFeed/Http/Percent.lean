import ConsoleFeed.Text.Digits
import ConsoleFeed.Text.Utf8

/-!
# Percent-encoding

In the target of a request a byte may be written as a percent sign and two hexadecimal digits.
Decoding works on bytes and leaves a percent sign alone that is not followed by two digits. Encoding
writes every byte that way which is not an unreserved character.
-/

namespace ConsoleFeed.Percent

/-- The byte `%`. -/
def sign : UInt8 := 0x25

/-- The value of a byte that stands for a hexadecimal digit. -/
def digitValue? (byte : UInt8) : Option Nat :=
  Digits.hexValue? (Char.ofNat byte.toNat)

/-- The byte of two hexadecimal digits. -/
def pair? (high low : UInt8) : Option UInt8 :=
  match digitValue? high, digitValue? low with
  | some highValue, some lowValue => some (UInt8.ofNat (highValue * 16 + lowValue))
  | _, _ => none

/-- The bytes that are meant. -/
def decode : List UInt8 → List UInt8
  | byte :: high :: low :: rest =>
      if byte = sign then
        match pair? high low with
        | some meant => meant :: decode rest
        | none => byte :: decode (high :: low :: rest)
      else byte :: decode (high :: low :: rest)
  | byte :: rest => byte :: decode rest
  | [] => []

/-- Whether a byte stands for itself in any part of a target. -/
def isUnreserved (byte : UInt8) : Bool :=
  let character := Char.ofNat byte.toNat
  ('a' ≤ character ∧ character ≤ 'z') || ('A' ≤ character ∧ character ≤ 'Z') ||
    ('0' ≤ character ∧ character ≤ '9') || character == '-' || character == '.' ||
    character == '_' || character == '~'

/-- The upper-case hexadecimal digit of a value below sixteen. -/
def digit (value : Nat) : Char :=
  if value < 10 then Char.ofNat ('0'.toNat + value) else Char.ofNat ('A'.toNat + (value - 10))

/-- How a byte is written. -/
def encodeByte (byte : UInt8) : List Char :=
  if isUnreserved byte then [Char.ofNat byte.toNat]
  else ['%', digit (byte.toNat / 16), digit (byte.toNat % 16)]

/-- A text as one segment of a path. -/
def encodeSegment (text : String) : String :=
  String.ofList ((Utf8.encode text).flatMap encodeByte)

/-- The text of a segment, if its bytes are those of one. -/
def decodeSegment? (segment : String) : Option String :=
  Utf8.decode? (decode (Utf8.encode segment))

end ConsoleFeed.Percent
