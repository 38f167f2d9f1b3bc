import ConsoleFeed.Text.Utf8

/-!
# Request targets

The target of a request is a path with an optional query, the same after a scheme and an authority,
an authority alone, or an asterisk. This file reads a target into the path and the query that
routing looks at, or refuses it. A fragment is cut off.

In a path and a query most characters may stand for themselves, also those beyond ASCII, but no
control character may; in an authority only the characters of the URI grammar may.
-/

namespace ConsoleFeed.Http

/-- What routing looks at. -/
structure Target where
  path : String
  query : Option String
deriving DecidableEq

namespace Target

/-- The most bytes that a target may have. -/
def sizeLimit : Nat := 65534

/-- The most characters that a scheme may have. -/
def schemeLimit : Nat := 64

/-- The most colons that an authority may have before a closing bracket. -/
def colonLimit : Nat := 8

/-- Whether a character is a letter or a digit of ASCII. -/
def isAlphanumeric (character : Char) : Bool :=
  ('a' ≤ character && character ≤ 'z') || ('A' ≤ character && character ≤ 'Z') ||
    ('0' ≤ character && character ≤ '9')

/-- Whether a character may stand in a path. -/
def inPath (character : Char) : Bool :=
  let number := character.toNat
  number == 0x21 || number == 0x22 || (0x24 ≤ number && number ≤ 0x3B) || number == 0x3D ||
    (0x40 ≤ number && number ≤ 0x5F) || (0x61 ≤ number && number != 0x7F)

/-- Whether a character may stand in a query. -/
def inQuery (character : Char) : Bool :=
  let number := character.toNat
  number == 0x21 || (0x24 ≤ number && number ≤ 0x3B) || number == 0x3D ||
    (0x3F ≤ number && number != 0x7F)

/-- Reads a path with its query. -/
def ofPath? (characters : List Char) : Option Target :=
  let whole := characters.takeWhile (· ≠ '#')
  let path := whole.takeWhile (· ≠ '?')
  let query := (whole.dropWhile (· ≠ '?')).drop 1
  if path.all inPath && query.all inQuery then
    some ⟨String.ofList path,
      if path.length < whole.length then some (String.ofList query) else none⟩
  else none

/-- Whether a character may stand in a scheme. -/
def inScheme (character : Char) : Bool :=
  isAlphanumeric character || ['+', '-', '.', '~'].contains character

/-- What reading a scheme finds: none, one with what follows it, or one that is too long. -/
inductive SchemeReading where
  | absent
  | present (rest : List Char)
  | tooLong

/-- Reads a scheme and the two slashes after it. -/
def readScheme (characters : List Char) : SchemeReading :=
  if characters.length ≤ 3 then .absent
  else
    let scheme := characters.takeWhile inScheme
    match characters.dropWhile inScheme with
    | ':' :: '/' :: '/' :: rest => if schemeLimit < scheme.length then .tooLong else .present rest
    | _ => .absent

/-- What is known of an authority after some of its characters. -/
structure AuthorityReading where
  colons : Nat
  opened : Bool
  closed : Bool
  percent : Bool
  lastAt : Bool

/-- Whether a character may stand in an authority without a meaning of its own there. -/
def inAuthority (character : Char) : Bool :=
  isAlphanumeric character ||
    ['!', '$', '&', '\'', '(', ')', '*', '+', ',', '-', '.', ';', '=', '_', '~'].contains character

/-- Reads one character of an authority. -/
def AuthorityReading.read? (reading : AuthorityReading) (character : Char) :
    Option AuthorityReading :=
  let next := { reading with lastAt := false }
  match character with
  | ':' =>
      if colonLimit ≤ reading.colons then none
      else some { next with colons := next.colons + 1 }
  | '[' => if reading.percent || reading.opened then none else some { next with opened := true }
  | ']' =>
      if !reading.opened || reading.closed then none
      else some { next with closed := true, colons := 0, percent := false }
  | '@' => some { next with colons := 0, percent := false, lastAt := true }
  | '%' => some { next with percent := true }
  | _ => if inAuthority character then some next else none

/-- Whether an authority may end where the reading stands. -/
def AuthorityReading.mayEnd (reading : AuthorityReading) : Bool :=
  reading.opened == reading.closed && reading.colons ≤ 1 && !reading.lastAt && !reading.percent

/-- Whether a character ends an authority. -/
def endsAuthority (character : Char) : Bool :=
  character == '/' || character == '?' || character == '#'

/-- Whether the characters are an authority. -/
def isAuthority (characters : List Char) : Bool :=
  (characters.foldlM AuthorityReading.read? ⟨0, false, false, false, false⟩).any
    AuthorityReading.mayEnd

/-- Reads a target that does not start with a slash. -/
def ofAbsolute? (characters : List Char) : Option Target :=
  match readScheme characters with
  | .tooLong => none
  | .absent => if isAuthority characters then some ⟨"", none⟩ else none
  | .present rest =>
      let authority := rest.takeWhile (!endsAuthority ·)
      if !authority.isEmpty && isAuthority authority then
        (ofPath? (rest.dropWhile (!endsAuthority ·))).map fun target =>
          if target.path.isEmpty then { target with path := "/" } else target
      else none

/-- Reads a target. -/
def read? (text : String) : Option Target :=
  if sizeLimit < text.utf8ByteSize then none
  else
    match text.toList with
    | [] => none
    | ['*'] => some ⟨"*", none⟩
    | '/' :: rest => ofPath? ('/' :: rest)
    | characters => ofAbsolute? characters

end Target

end ConsoleFeed.Http
