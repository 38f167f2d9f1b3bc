import ConsoleFeed.Json5.Value
import ConsoleFeed.Text.Identifier

/-!
# The grammar of JSON5

The reader follows the grammar: comments and all of Unicode's spaces between tokens, keys without
quotes, texts in either kind of quotes with line continuations, numbers in hexadecimal digits or
with a bare point, and a comma after the last item or member. There is no limit to nesting. A text
that does not follow the grammar gives nothing; where it went wrong is not told.

Every reader of a part gives the value and the characters after it. The reader of values recurses on
a bound that the length of the text gives, since each level takes a character.
-/

namespace ConsoleFeed.Json5

/-- Whether a character ends a line. -/
def endsLine (character : Char) : Bool :=
  character == '\n' || character == '\r' || character == '\u2028' || character == '\u2029'

/-- Whether a character may stand between tokens. -/
def isBlank (character : Char) : Bool :=
  endsLine character || character == '\t' || character == '\x0b' || character == '\x0c' ||
    character == ' ' || character == '\u00A0' || character == '\uFEFF' || character == '\u1680' ||
    ('\u2000' ≤ character && character ≤ '\u200A') || character == '\u202F' ||
    character == '\u205F' || character == '\u3000'

/-- The characters after the end of a block comment, if it has one. -/
def afterBlock? : List Char → Option (List Char)
  | [] => none
  | '*' :: '/' :: rest => some rest
  | _ :: rest => afterBlock? rest

/-- Skips blanks and comments, at most `bound` of them. A block comment without an end is none. -/
def skipWithin : Nat → List Char → List Char
  | 0, characters => characters
  | bound + 1, characters =>
      match characters with
      | '/' :: '/' :: rest => skipWithin bound (rest.dropWhile (!endsLine ·))
      | '/' :: '*' :: rest =>
          match afterBlock? rest with
          | some after => skipWithin bound after
          | none => characters
      | character :: rest => if isBlank character then skipWithin bound rest else characters
      | [] => []

/-- Skips blanks and comments. -/
def skip (characters : List Char) : List Char :=
  skipWithin characters.length characters

/-- The number of hexadecimal digits, if all characters are such. -/
def hexNumber? (digits : List Char) : Option Nat :=
  if digits.all Digits.isHex then some (Digits.hexNumber digits) else none

/-- Puts a part of a text before the parts read after it. -/
def consPiece (piece : Piece) :
    Option (List Piece × List Char) → Option (List Piece × List Char)
  | some (pieces, rest) => some (piece :: pieces, rest)
  | none => none

/-- Reads the inside of a text up to the closing quote. -/
def readQuoted (quote : Char) : List Char → Option (List Piece × List Char)
  | '\\' :: '\r' :: '\n' :: rest => readQuoted quote rest
  | '\\' :: 'x' :: a :: b :: rest =>
      match hexNumber? [a, b] with
      | some number => consPiece (.byte number) (readQuoted quote rest)
      | none => none
  | '\\' :: 'u' :: a :: b :: c :: d :: rest =>
      match hexNumber? [a, b, c, d] with
      | some number => consPiece (.unit number) (readQuoted quote rest)
      | none => none
  | '\\' :: character :: rest =>
      if endsLine character then readQuoted quote rest
      else if character = '0' then consPiece .nul (readQuoted quote rest)
      else if character = 'x' ∨ character = 'u' ∨ Digits.isDecimal character then none
      else consPiece (.escaped character) (readQuoted quote rest)
  | character :: rest =>
      if character = quote then some ([], rest)
      else if character = '\\' ∨ endsLine character then none
      else consPiece (.literal character) (readQuoted quote rest)
  | [] => none

/-- Reads the rest of a name after its start. -/
def readNameRest : List Char → Option (List Piece × List Char)
  | '\\' :: 'u' :: a :: b :: c :: d :: rest =>
      match hexNumber? [a, b, c, d] with
      | some number => consPiece (.unit number) (readNameRest rest)
      | none => some ([], '\\' :: 'u' :: a :: b :: c :: d :: rest)
  | character :: rest =>
      if Identifier.continues character then consPiece (.literal character) (readNameRest rest)
      else some ([], character :: rest)
  | [] => some ([], [])

/-- Reads a key. -/
def readKey (characters : List Char) : Option (List Piece × List Char) :=
  match characters with
  | '"' :: rest => readQuoted '"' rest
  | '\'' :: rest => readQuoted '\'' rest
  | '\\' :: _ =>
      (readNameRest characters).bind fun (pieces, rest) =>
        if pieces.isEmpty then none else some (pieces, rest)
  | character :: _ => if Identifier.starts character then readNameRest characters else none
  | [] => none

/-- Reads the exponent of a number, if one follows. -/
def readExponent (characters : List Char) : Option Int × List Char :=
  let unsigned (negative : Bool) (digits : List Char) : Option Int × List Char :=
    match Digits.span Digits.isDecimal digits with
    | ([], _) => (none, characters)
    | (run, rest) =>
        let magnitude : Int := Digits.decimalNumber run
        (some (if negative then -magnitude else magnitude), rest)
  match characters with
  | letter :: rest =>
      if letter = 'e' ∨ letter = 'E' then
        match rest with
        | '-' :: digits => unsigned true digits
        | '+' :: digits => unsigned false digits
        | digits => unsigned false digits
      else (none, characters)
  | [] => (none, [])

/-- Reads the fraction and the exponent of a number. -/
def readFraction (whole : List Char) (characters : List Char) : Magnitude × List Char :=
  match characters with
  | '.' :: rest =>
      let (fraction, afterFraction) := Digits.span Digits.isDecimal rest
      let (exponent, afterExponent) := readExponent afterFraction
      (.decimal whole (some fraction) exponent, afterExponent)
  | _ =>
      let (exponent, afterExponent) := readExponent characters
      (.decimal whole none exponent, afterExponent)

/-- Reads a number after its sign. -/
def readMagnitude (characters : List Char) : Option (Magnitude × List Char) :=
  match characters with
  | 'I' :: 'n' :: 'f' :: 'i' :: 'n' :: 'i' :: 't' :: 'y' :: rest => some (.infinity, rest)
  | 'N' :: 'a' :: 'N' :: rest => some (.nan, rest)
  | '0' :: letter :: digit :: rest =>
      if (letter = 'x' ∨ letter = 'X') ∧ Digits.isHex digit then
        let (digits, afterDigits) := Digits.span Digits.isHex (digit :: rest)
        some (.hex digits, afterDigits)
      else some (readFraction ['0'] (letter :: digit :: rest))
  | '0' :: rest => some (readFraction ['0'] rest)
  | '.' :: digit :: rest =>
      if Digits.isDecimal digit then some (readFraction [] ('.' :: digit :: rest)) else none
  | _ =>
      match Digits.span Digits.isDecimal characters with
      | ([], _) => none
      | (whole, rest) => some (readFraction whole rest)

/-- Reads a number. -/
def readNumber (characters : List Char) : Option (Value × List Char) :=
  let signed (sign : Sign) (unsigned : List Char) : Option (Value × List Char) :=
    (readMagnitude unsigned).map fun (magnitude, rest) => (.number ⟨sign, magnitude⟩, rest)
  match characters with
  | '-' :: rest => signed .minus rest
  | '+' :: rest => signed .plus rest
  | rest => signed .absent rest

/-- Reads the items of an array up to its closing bracket, with a reader of items. -/
def readItems (readItem : List Char → Option (Value × List Char)) :
    Nat → List Char → Option (List Value × List Char)
  | 0, _ => none
  | bound + 1, characters =>
      match skip characters with
      | ']' :: rest => some ([], rest)
      | start =>
          match readItem start with
          | none => none
          | some (item, rest) =>
              match skip rest with
              | ']' :: rest => some ([item], rest)
              | ',' :: rest =>
                  (readItems readItem bound rest).map fun (items, rest) => (item :: items, rest)
              | _ => none

/-- Reads the members of an object up to its closing brace, with a reader of values. -/
def readMembers (readValue : List Char → Option (Value × List Char)) :
    Nat → List Char → Option (List (List Piece × Value) × List Char)
  | 0, _ => none
  | bound + 1, characters =>
      match skip characters with
      | '\x7d' :: rest => some ([], rest)
      | start =>
          match readKey start with
          | none => none
          | some (key, rest) =>
              match skip rest with
              | ':' :: rest =>
                  match readValue (skip rest) with
                  | none => none
                  | some (value, rest) =>
                      match skip rest with
                      | '\x7d' :: rest => some ([(key, value)], rest)
                      | ',' :: rest =>
                          (readMembers readValue bound rest).map fun (members, rest) =>
                            ((key, value) :: members, rest)
                      | _ => none
              | _ => none

/-- The first of the characters; there is one after whatever opens a value that is closed. -/
def firstOf (characters : List Char) : Char := characters.headD '\x00'

/-- Reads a value that starts with the first character, with a reader for what stands inside it. -/
def readLevel (readInner : List Char → Option (Value × List Char)) (characters : List Char) :
    Option (Value × List Char) :=
  match characters with
  | 'n' :: 'u' :: 'l' :: 'l' :: rest => some (.null, rest)
  | 't' :: 'r' :: 'u' :: 'e' :: rest => some (.boolean true, rest)
  | 'f' :: 'a' :: 'l' :: 's' :: 'e' :: rest => some (.boolean false, rest)
  | '"' :: inside =>
      (readQuoted '"' inside).map fun (pieces, rest) => (.text (firstOf inside) pieces, rest)
  | '\'' :: inside =>
      (readQuoted '\'' inside).map fun (pieces, rest) => (.text (firstOf inside) pieces, rest)
  | '[' :: inside =>
      match skip inside with
      | ',' :: _ => none
      | _ =>
          (readItems readInner (inside.length + 1) inside).map fun (items, rest) =>
            (.array (firstOf inside) items, rest)
  | '\x7b' :: inside =>
      (readMembers readInner (inside.length + 1) inside).map fun (members, rest) =>
        (.object (firstOf inside) members, rest)
  | _ => readNumber characters

/-- Reads a value with at most the given number of levels. -/
def readValue : Nat → List Char → Option (Value × List Char)
  | 0 => fun _ => none
  | levels + 1 => readLevel (readValue levels)

/-- Reads a whole text. -/
def read? (text : String) : Option Value :=
  let characters := text.toList
  match readValue (characters.length + 1) (skip characters) with
  | none => none
  | some (value, rest) => if (skip rest).isEmpty then some value else none

end ConsoleFeed.Json5
