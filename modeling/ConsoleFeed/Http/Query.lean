import ConsoleFeed.Document.Basic
import ConsoleFeed.Http.Percent
import ConsoleFeed.Text.Pieces

/-!
# Queries

The query of a target is a list of names and values: pieces with ampersands between, each a name
and, after its first equals sign, a value. A plus sign is a space, bytes may be percent-encoded, and
what is no text afterwards is shown as U+FFFD. Empty pieces do not count, and a piece without an
equals sign has an empty value.

A query is taken as an option set: every value is a text, and of several values under a name the
last one counts.
-/

namespace ConsoleFeed.Query

/-- The text of a name or a value. -/
def decodeComponent (component : List Char) : String :=
  let spaced := component.map fun character => if character = '+' then ' ' else character
  Utf8.decodeReplacing (Percent.decode (Utf8.encode (String.ofList spaced)))

/-- The name and the value of a piece. -/
def decodePair (piece : List Char) : String × String :=
  (decodeComponent (piece.takeWhile (· ≠ '=')),
    decodeComponent ((piece.dropWhile (· ≠ '=')).drop 1))

/-- The names and values of a query, in their order. -/
def pairs (query : String) : List (String × String) :=
  ((Pieces.split '&' query.toList).filter fun piece => !piece.isEmpty).map decodePair

/-- The option set of a query. -/
def options (query : String) : OptionSet :=
  KeyMap.ofList ((pairs query).map fun pair => (pair.1, .text pair.2))

/-- How a name or a value is written. -/
def encodeComponent (text : String) : List Char :=
  (Utf8.encode text).flatMap fun byte =>
    if byte = 0x20 then ['+'] else Percent.encodeByte byte

/-- The query of names and values. -/
def encode (pairs : List (String × String)) : String :=
  String.ofList (Pieces.join '&'
    (pairs.map fun pair => encodeComponent pair.1 ++ '=' :: encodeComponent pair.2))

end ConsoleFeed.Query
