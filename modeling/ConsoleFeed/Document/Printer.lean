import ConsoleFeed.Document.Basic
import ConsoleFeed.Number.Decimal

/-!
# Compact text of documents

A document is written without blanks, the members of an object in the order in which they are
listed, which is ascending by key. A text is quoted; only the quote, the backslash and the
characters below the space are escaped, and everything else stands for itself.
-/

namespace ConsoleFeed.Document

/-- Numbers from `10 ^ -5` up to below `10 ^ 16` are written without an exponent, and from the
middle a decimal goes to the even digit. -/
def numberStyle : DecimalStyle := ⟨some (-5), some 15, .toEven⟩

/-- How a character stands between quotes. -/
def quotedCharacter (character : Char) : List Char :=
  if character = '"' then ['\\', '"']
  else if character = '\\' then ['\\', '\\']
  else if character = '\x08' then ['\\', 'b']
  else if character = '\x0c' then ['\\', 'f']
  else if character = '\n' then ['\\', 'n']
  else if character = '\r' then ['\\', 'r']
  else if character = '\t' then ['\\', 't']
  else if character.toNat < 0x20 then
    '\\' :: 'u' :: Digits.padLeft 4 (Digits.hex character.toNat)
  else [character]

/-- A text between quotes. -/
def quoted (text : List Char) : List Char :=
  '"' :: text.flatMap quotedCharacter ++ ['"']

mutual

/-- The characters of a document's text. -/
def characters : Document → List Char
  | .null => ['n', 'u', 'l', 'l']
  | .boolean true => ['t', 'r', 'u', 'e']
  | .boolean false => ['f', 'a', 'l', 's', 'e']
  | .integer value => Digits.signed value
  | .float value => value.text numberStyle
  | .text value => quoted value.toList
  | .array [] => ['[', ']']
  | .array (first :: rest) => '[' :: characters first ++ itemCharacters rest
  | .object [] => ['\x7b', '\x7d']
  | .object ((key, value) :: rest) =>
      '\x7b' :: quoted key.toList ++ ':' :: characters value ++ memberCharacters rest

/-- The rest of an array, from the comma or the closing bracket on. -/
def itemCharacters : List Document → List Char
  | [] => [']']
  | item :: rest => ',' :: characters item ++ itemCharacters rest

/-- The rest of an object, from the comma or the closing brace on. -/
def memberCharacters : List (String × Document) → List Char
  | [] => ['\x7d']
  | (key, value) :: rest =>
      ',' :: quoted key.toList ++ ':' :: characters value ++ memberCharacters rest

end

/-- The compact text of a document. -/
def compact (document : Document) : String :=
  String.ofList document.characters

end ConsoleFeed.Document
