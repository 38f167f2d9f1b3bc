import ConsoleFeed.Http.Target

/-!
# Media types

A body is read as a document only if it is declared to be one: its media type is `application/json`,
or of type `application` with the suffix `json`, in any case and with any parameters. This file
reads the value of the header; a value that does not follow the grammar of media types declares
nothing.

The suffix is what follows the last plus sign of the subtype, and the subtype is then only what
stands before that sign.
-/

namespace ConsoleFeed.Http.MediaType

/-- Whether a character may stand in a token. -/
def inToken (character : Char) : Bool :=
  Target.isAlphanumeric character ||
    ['!', '#', '$', '%', '&', '\'', '*', '+', '-', '.', '^', '_', '\x60', '|', '~'].contains
      character

/-- Whether a character may stand between the quotes of a parameter's value. -/
def inQuotes (character : Char) : Bool :=
  0x20 ≤ character.toNat && character.toNat < 0x7F

/-- Reads the value of a parameter after its opening quote, and the spaces and the semicolon after
it. Between the quotes there is at least one character, and a quote may be the first of them. -/
def skipQuoted? : List Char → Option (List Char)
  | first :: others =>
      let inside := first :: others.takeWhile (· ≠ '"')
      match others.dropWhile (· ≠ '"') with
      | '"' :: rest =>
          if inside.all inQuotes then
            match rest.dropWhile (· == ' ') with
            | [] => some []
            | ';' :: parameters => some parameters
            | _ => none
          else none
      | _ => none
  | [] => none

/-- Reads the value of a parameter and the semicolon after it. A value that a semicolon follows has
at least one character. -/
def skipValue? : List Char → Option (List Char)
  | '"' :: rest => skipQuoted? rest
  | characters =>
      match characters.dropWhile inToken with
      | [] => some []
      | ';' :: rest => if (characters.takeWhile inToken).isEmpty then none else some rest
      | _ => none

/-- Whether the characters are parameters, each a name, an equals sign and a value. -/
def areParameters : Nat → List Char → Bool
  | 0, characters => characters.isEmpty
  | bound + 1, characters =>
      match characters.dropWhile (· == ' ') with
      | [] => true
      | parameter =>
          if (parameter.takeWhile inToken).isEmpty then false
          else
            match parameter.dropWhile inToken with
            | '=' :: value =>
                match skipValue? value with
                | some rest => areParameters bound rest
                | none => false
            | _ => false

/-- The type, the subtype without its suffix, and the suffix, in lower case, if the value follows
the grammar. -/
def read? (value : String) : Option (String × String × Option String) :=
  let characters := value.toList.map Char.toLower
  let type := characters.takeWhile inToken
  match characters.dropWhile inToken with
  | '/' :: rest =>
      let subtype := rest.takeWhile inToken
      let parametersFollow := match rest.dropWhile inToken with
        | [] => true
        | ';' :: parameters =>
            !subtype.isEmpty && areParameters (parameters.length + 1) parameters
        | _ => false
      if type.isEmpty || !parametersFollow then none
      else
        let reversedSuffix := subtype.reverse.takeWhile (· ≠ '+')
        let stem := subtype.take (subtype.length - reversedSuffix.length - 1)
        if reversedSuffix.length < subtype.length ∧ !stem.isEmpty then
          some (String.ofList type, String.ofList stem, some (String.ofList reversedSuffix.reverse))
        else some (String.ofList type, String.ofList subtype, none)
  | _ => none

/-- Whether a header's value can be sent at all. -/
def isHeaderValue (value : String) : Bool :=
  value.toList.all fun character =>
    character == '\t' || (0x20 ≤ character.toNat && character.toNat != 0x7F)

/-- Whether a header's value declares a document. -/
def declaresDocument (value : String) : Bool :=
  (read? value).any fun (type, subtype, suffix) =>
    type == "application" && (subtype == "json" || suffix == some "json")

end ConsoleFeed.Http.MediaType
