/-!
# UTF-8

A text is measured, cut and sent in its UTF-8 bytes. This file gives the bytes of a text and three
readings of bytes: the strict one, the one that keeps the part before the first ill-formed byte, and
the one that puts U+FFFD in the place of what is ill-formed.

The last two share one machine. It reads a byte at a time and remembers the sequence it is inside
of, together with the range that the next byte must fall into; the ranges after the lead bytes E0,
ED, F0 and F4 are narrower, which excludes overlong forms, surrogates and numbers above U+10FFFF.
-/

namespace ConsoleFeed.Utf8

/-- The bytes of a text. -/
def encode (text : String) : List UInt8 :=
  text.toList.flatMap String.utf8EncodeChar

/-- The text with these bytes, if there is one. -/
def decode? (bytes : List UInt8) : Option String :=
  String.fromUTF8? ⟨bytes.toArray⟩

/-- A sequence of which some bytes have been read: how many are still to come, the range that the
next one must fall into, and the number that the bytes so far spell. -/
structure Pending where
  remaining : Nat
  lowest : Nat
  highest : Nat
  value : Nat

/-- What one byte does to the machine. -/
inductive Progress where
  | complete (character : Char)
  | inside (pending : Pending)
  | illFormed

/-- The character with which an ill-formed piece is shown. -/
def replacement : Char := '\uFFFD'

/-- Reads the first byte of a sequence. -/
def start (byte : UInt8) : Progress :=
  let lead := byte.toNat
  if lead < 0x80 then .complete (Char.ofNat lead)
  else if lead < 0xC2 then .illFormed
  else if lead < 0xE0 then .inside ⟨1, 0x80, 0xBF, lead % 32⟩
  else if lead = 0xE0 then .inside ⟨2, 0xA0, 0xBF, 0⟩
  else if lead = 0xED then .inside ⟨2, 0x80, 0x9F, 13⟩
  else if lead < 0xF0 then .inside ⟨2, 0x80, 0xBF, lead % 16⟩
  else if lead = 0xF0 then .inside ⟨3, 0x90, 0xBF, 0⟩
  else if lead < 0xF4 then .inside ⟨3, 0x80, 0xBF, lead % 8⟩
  else if lead = 0xF4 then .inside ⟨3, 0x80, 0x8F, 4⟩
  else .illFormed

/-- Reads a later byte of a sequence. -/
def Pending.continue (pending : Pending) (byte : UInt8) : Progress :=
  if pending.lowest ≤ byte.toNat ∧ byte.toNat ≤ pending.highest then
    let value := pending.value * 64 + byte.toNat % 64
    if pending.remaining ≤ 1 then .complete (Char.ofNat value)
    else .inside ⟨pending.remaining - 1, 0x80, 0xBF, value⟩
  else .illFormed

/-- Reads bytes from inside a sequence, or between two, and shows each ill-formed piece as one
U+FFFD. A byte that breaks a sequence off is read again as the start of the next. -/
def replacing : Option Pending → List UInt8 → List Char
  | none, [] => []
  | some _, [] => [replacement]
  | none, byte :: rest =>
      match start byte with
      | .complete character => character :: replacing none rest
      | .inside pending => replacing (some pending) rest
      | .illFormed => replacement :: replacing none rest
  | some pending, byte :: rest =>
      match pending.continue byte with
      | .complete character => character :: replacing none rest
      | .inside later => replacing (some later) rest
      | .illFormed =>
          replacement ::
            match start byte with
            | .complete character => character :: replacing none rest
            | .inside fresh => replacing (some fresh) rest
            | .illFormed => replacement :: replacing none rest

/-- The text of the bytes, with U+FFFD for each ill-formed piece. -/
def decodeReplacing (bytes : List UInt8) : String :=
  match decode? bytes with
  | some text => text
  | none => String.ofList (replacing none bytes)

/-- The characters before the first ill-formed piece. -/
def leading : Option Pending → List UInt8 → List Char
  | _, [] => []
  | none, byte :: rest =>
      match start byte with
      | .complete character => character :: leading none rest
      | .inside pending => leading (some pending) rest
      | .illFormed => []
  | some pending, byte :: rest =>
      match pending.continue byte with
      | .complete character => character :: leading none rest
      | .inside later => leading (some later) rest
      | .illFormed => []

/-- The longest text that the bytes begin with, and whether it is all of them. -/
def decodeLeading (bytes : List UInt8) : String × Bool :=
  match decode? bytes with
  | some text => (text, true)
  | none => (String.ofList (leading none bytes), false)

theorem toByteArray_eq_encode (text : String) : text.toByteArray = ⟨(encode text).toArray⟩ := by
  rw [← text.utf8Encode_toList]
  apply ByteArray.ext
  apply Array.toList_inj.mp
  simp [encode, List.utf8Encode]

theorem decode?_encode (text : String) : decode? (encode text) = some text := by
  rw [decode?, ← toByteArray_eq_encode]
  unfold String.fromUTF8?
  rw [dif_pos text.isValidUTF8]
  rfl

theorem length_encode (text : String) : (encode text).length = text.utf8ByteSize := by
  rw [String.utf8ByteSize, toByteArray_eq_encode]
  rfl

end ConsoleFeed.Utf8
