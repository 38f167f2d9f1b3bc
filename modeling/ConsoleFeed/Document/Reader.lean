import ConsoleFeed.Document.Basic
import ConsoleFeed.Number.Stepwise

/-!
# Reading documents

The reader accepts the usual text of documents: blanks between tokens, any order of members, escapes
in texts. A text is refused if it is malformed, if it nests deeper than 127 levels, if a number is
too large for every finite binary64 number, or if an escape names half of a surrogate pair. Of
several members under one key the last counts. A whole number outside the range that is kept exactly
becomes a binary64 number, and so does `-0`, which keeps its sign that way. Binary64 numbers are
reached stepwise.

The nesting limit is also what the recursion descends on: the reader of one level is built from the
reader of the level below. Within a level the items of an array and the members of an object are
read one after the other; each takes at least one character, so the length of the text bounds their
number.
-/

namespace ConsoleFeed.Document

/-- Why a text is refused. -/
inductive ReadError where
  | malformed
  | tooDeep
  | numberTooLarge
  | loneSurrogate
  | trailingCharacters
  | notAnObject
deriving DecidableEq

/-- What a reader of a part yields: the value and the characters after it, or the fault. -/
abbrev ReadResult (Value : Type) := Except ReadError (Value × List Char)

/-- Arrays and objects may stand inside one another up to this many levels. -/
def nestingLimit : Nat := 127

/-- Whether a character may stand between tokens. -/
def isBlank (character : Char) : Bool :=
  character = ' ' || character = '\n' || character = '\t' || character = '\r'

/-- The characters after the leading blanks. -/
def skipBlanks (characters : List Char) : List Char :=
  characters.dropWhile isBlank

/-- The character after a backslash, other than `u`, and what it stands for. -/
def escaped? (character : Char) : Option Char :=
  match character with
  | '"' => some '"'
  | '\\' => some '\\'
  | '/' => some '/'
  | 'b' => some '\x08'
  | 'f' => some '\x0c'
  | 'n' => some '\n'
  | 'r' => some '\r'
  | 't' => some '\t'
  | _ => none

/-- The number of four hexadecimal digits. -/
def codeUnit? (digits : List Char) : Option Nat :=
  if digits.all Digits.isHex then some (Digits.hexNumber digits) else none

/-- Whether a code unit is the first half of a surrogate pair. -/
def isLeadSurrogate (unit : Nat) : Bool := 0xD800 ≤ unit && unit < 0xDC00

/-- Whether a code unit is the second half of a surrogate pair. -/
def isTrailSurrogate (unit : Nat) : Bool := 0xDC00 ≤ unit && unit < 0xE000

/-- The character of a surrogate pair. -/
def ofSurrogates (lead trail : Nat) : Char :=
  Char.ofNat (0x10000 + (lead - 0xD800) * 0x400 + (trail - 0xDC00))

/-- Puts a character before what was read after it. -/
def consRead (character : Char) : ReadResult (List Char) → ReadResult (List Char)
  | .ok (characters, rest) => .ok (character :: characters, rest)
  | .error fault => .error fault

/-- Reads the inside of a text up to the closing quote. A first half of a surrogate pair that was
just read waits for its second half. -/
def readQuoted : Option Nat → List Char → ReadResult (List Char)
  | none, '"' :: rest => .ok ([], rest)
  | none, '\\' :: 'u' :: a :: b :: c :: d :: rest =>
      match codeUnit? [a, b, c, d] with
      | none => .error .malformed
      | some unit =>
          if isLeadSurrogate unit then readQuoted (some unit) rest
          else if isTrailSurrogate unit then .error .loneSurrogate
          else consRead (Char.ofNat unit) (readQuoted none rest)
  | some lead, '\\' :: 'u' :: a :: b :: c :: d :: rest =>
      match codeUnit? [a, b, c, d] with
      | none => .error .malformed
      | some unit =>
          if isTrailSurrogate unit then consRead (ofSurrogates lead unit) (readQuoted none rest)
          else .error .loneSurrogate
  | none, '\\' :: character :: rest =>
      match escaped? character with
      | some meant => consRead meant (readQuoted none rest)
      | none => .error .malformed
  | none, character :: rest =>
      if character.toNat < 0x20 then .error .malformed
      else consRead character (readQuoted none rest)
  | some _, _ :: _ => .error .loneSurrogate
  | _, [] => .error .malformed

/-- Reads the exponent of a number after its `e`. -/
def readExponent (characters : List Char) : ReadResult Int :=
  let (negative, unsigned) := match characters with
    | '-' :: rest => (true, rest)
    | '+' :: rest => (false, rest)
    | rest => (false, rest)
  match Digits.span Digits.isDecimal unsigned with
  | ([], _) => .error .malformed
  | (digits, rest) =>
      let magnitude : Int := Digits.decimalNumber digits
      .ok (if negative then -magnitude else magnitude, rest)

/-- The whole number with a sign, kept exactly if it is within range. -/
def ofWhole? (negative : Bool) (digits : List Char) : Option Document :=
  let magnitude : Int := Digits.decimalNumber digits
  let value := if negative then -magnitude else magnitude
  if lowestInteger ≤ value ∧ value < integerBound ∧ ¬ (negative ∧ magnitude = 0) then
    some (.integer value)
  else (DecimalLiteral.stepwise? ⟨negative, digits, [], 0⟩).map .float

/-- Reads what follows the whole part of a number. -/
def readAfterWhole (negative : Bool) (whole : List Char) (characters : List Char) :
    Except ReadError (Document × List Char) := do
  let (fraction, afterFraction) ← match characters with
    | '.' :: rest =>
        match Digits.span Digits.isDecimal rest with
        | ([], _) => .error .malformed
        | (digits, rest) => .ok (some digits, rest)
    | rest => .ok (none, rest)
  let (exponent, afterNumber) ← match afterFraction with
    | 'e' :: rest => (readExponent rest).map fun (value, rest) => (some value, rest)
    | 'E' :: rest => (readExponent rest).map fun (value, rest) => (some value, rest)
    | rest => .ok (none, rest)
  let value? :=
    if fraction.isNone && exponent.isNone then ofWhole? negative whole
    else (DecimalLiteral.stepwise? ⟨negative, whole, fraction.getD [], exponent.getD 0⟩).map .float
  match value? with
  | some value => .ok (value, afterNumber)
  | none => .error .numberTooLarge

/-- Reads a number after its sign. A whole part of more than one digit does not start with zero. -/
def readNumber (negative : Bool) (characters : List Char) : ReadResult Document :=
  match Digits.span Digits.isDecimal characters with
  | ([], _) => .error .malformed
  | ('0' :: _ :: _, _) => .error .malformed
  | (whole, rest) => readAfterWhole negative whole rest

/-- Reads the items of an array, of which at least one is still to come, with a reader of items. -/
def readItems (readItem : List Char → ReadResult Document) :
    Nat → List Char → ReadResult (List Document)
  | 0, _ => .error .malformed
  | bound + 1, characters =>
      match readItem characters with
      | .error fault => .error fault
      | .ok (item, rest) =>
          match skipBlanks rest with
          | ']' :: rest => .ok ([item], rest)
          | ',' :: rest =>
              (readItems readItem bound rest).map fun (items, rest) => (item :: items, rest)
          | _ => .error .malformed

/-- Reads the members of an object, of which at least one is still to come, with a reader of values.
-/
def readMembers (readValue : List Char → ReadResult Document) :
    Nat → List Char → ReadResult (List (String × Document))
  | 0, _ => .error .malformed
  | bound + 1, characters =>
      match skipBlanks characters with
      | '"' :: rest =>
          match readQuoted none rest with
          | .error fault => .error fault
          | .ok (key, rest) =>
              match skipBlanks rest with
              | ':' :: rest =>
                  match readValue rest with
                  | .error fault => .error fault
                  | .ok (value, rest) =>
                      match skipBlanks rest with
                      | '\x7d' :: rest => .ok ([(String.ofList key, value)], rest)
                      | ',' :: rest =>
                          (readMembers readValue bound rest).map fun (members, rest) =>
                            ((String.ofList key, value) :: members, rest)
                      | _ => .error .malformed
              | _ => .error .malformed
      | _ => .error .malformed

/-- Reads an array after its opening bracket. -/
def readArray (readItem : List Char → ReadResult Document) (characters : List Char) :
    ReadResult Document :=
  match skipBlanks characters with
  | ']' :: rest => .ok (.array [], rest)
  | rest => (readItems readItem rest.length rest).map fun (items, rest) => (.array items, rest)

/-- Reads an object after its opening brace. -/
def readObject (readValue : List Char → ReadResult Document) (characters : List Char) :
    ReadResult Document :=
  match skipBlanks characters with
  | '\x7d' :: rest => .ok (.object [], rest)
  | rest =>
      (readMembers readValue rest.length rest).map fun (members, rest) => (ofMembers members, rest)

/-- Reads a value, with the reader of the level below for what stands inside it. -/
def readLevel (readInner : Option (List Char → ReadResult Document)) (characters : List Char) :
    ReadResult Document :=
  match skipBlanks characters with
  | 'n' :: 'u' :: 'l' :: 'l' :: rest => .ok (.null, rest)
  | 't' :: 'r' :: 'u' :: 'e' :: rest => .ok (.boolean true, rest)
  | 'f' :: 'a' :: 'l' :: 's' :: 'e' :: rest => .ok (.boolean false, rest)
  | '"' :: rest =>
      (readQuoted none rest).map fun (content, rest) => (.text (String.ofList content), rest)
  | '-' :: rest => readNumber true rest
  | '[' :: rest =>
      match readInner with
      | some readItem => readArray readItem rest
      | none => .error .tooDeep
  | '\x7b' :: rest =>
      match readInner with
      | some readValue => readObject readValue rest
      | none => .error .tooDeep
  | rest => readNumber false rest

/-- Reads a value with at most the given number of levels. -/
def readValue : Nat → List Char → ReadResult Document
  | 0 => readLevel none
  | levels + 1 => readLevel (some (readValue levels))

/-- Reads a whole text as one document. -/
def read (text : String) : Except ReadError Document :=
  match readValue nestingLimit text.toList with
  | .error fault => .error fault
  | .ok (document, rest) =>
      if (skipBlanks rest).isEmpty then .ok document else .error .trailingCharacters

/-- Reads a whole text as an object. That it is something else is found at its first value, before
anything that follows is looked at; the inside of an array is not looked at either. -/
def readMap (text : String) : Except ReadError OptionSet :=
  match skipBlanks text.toList with
  | '\x7b' :: _ =>
      match read text with
      | .error fault => .error fault
      | .ok (.object members) => .ok (KeyMap.ofList members)
      | .ok _ => .error .notAnObject
  | '[' :: _ => .error .notAnObject
  | characters =>
      match readValue 0 characters with
      | .error fault => .error fault
      | .ok _ => .error .notAnObject

end ConsoleFeed.Document
