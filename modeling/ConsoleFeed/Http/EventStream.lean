import ConsoleFeed.Text.Utf8

/-!
# Event streams

Payloads are pushed to a client as server-sent events: each line of a payload is a `data` field, and
an empty line ends the event. Between events the server may send a comment, which keeps the
connection open. A carriage return would end a line too, so nothing with one in it can be built, and
neither can a comment of more than one line.

Reading a stream takes its bytes as text, without a byte order mark at its beginning, and its lines
one by one. A line ends at a line feed, at a carriage return, or at both together; what stands after
the last of these is not looked at. The name of a field ends at the first colon of its line, and one
space after the colon is no part of the value. A `data` field adds a line to the event that is being
read, other fields and comments add nothing, and an empty line ends the event.
-/

namespace ConsoleFeed.EventStream

/-- The lines of a text. -/
def lines : List Char → List (List Char)
  | [] => [[]]
  | character :: rest =>
      if character = '\n' then [] :: lines rest
      else
        match lines rest with
        | [] => [[character]]
        | first :: others => (character :: first) :: others

/-- The text that a field starts with. -/
def fieldStart : List Char := ['d', 'a', 't', 'a', ':']

/-- The event that carries a payload. -/
def encode (payload : String) : String :=
  String.ofList
    ((lines payload.toList).flatMap (fun line => fieldStart ++ ' ' :: line ++ ['\n']) ++ ['\n'])

/-- What is sent at once. -/
inductive Frame where
  | event (payload : String)
  | comment (text : String)

namespace Frame

/-- The text of a frame, if it can be built. -/
def text? : Frame → Option String
  | .event payload => if '\r' ∈ payload.toList then none else some (encode payload)
  | .comment text =>
      if '\r' ∈ text.toList ∨ '\n' ∈ text.toList then none else some (":" ++ text ++ "\n\n")

/-- The payload that a frame carries. -/
def payload? : Frame → Option String
  | .event payload => some payload
  | .comment _ => none

end Frame

/-- The text of frames one after the other, if every one of them can be built. -/
def body? : List Frame → Option String
  | [] => some ""
  | frame :: rest => frame.text?.bind fun text => (body? rest).map (text ++ ·)

/-- The lines of a stream that have ended, the first of them with what was read of it before. -/
def endedLines (before : List Char) : List Char → List (List Char)
  | [] => []
  | '\r' :: '\n' :: rest => before :: endedLines [] rest
  | '\r' :: rest => before :: endedLines [] rest
  | '\n' :: rest => before :: endedLines [] rest
  | character :: rest => endedLines (before ++ [character]) rest

/-- The value of a field, from its colon on. -/
def valueOf : List Char → List Char
  | ':' :: ' ' :: value => value
  | ':' :: value => value
  | _ => []

/-- What one line adds to the lines of the event that is being read. -/
def dataOf (line : List Char) : List (List Char) :=
  if line.takeWhile (· ≠ ':') = ['d', 'a', 't', 'a'] then [valueOf (line.dropWhile (· ≠ ':'))]
  else []

/-- Reads lines, with the data of the event that is being read; an event without data is none. -/
def readLines (data : List (List Char)) : List (List Char) → List String
  | [] => []
  | [] :: rest =>
      if data.isEmpty then readLines [] rest
      else String.ofList (List.intercalate ['\n'] data) :: readLines [] rest
  | line :: rest => readLines (data ++ dataOf line) rest

/-- The characters after a byte order mark. -/
def withoutMark : List Char → List Char
  | '\uFEFF' :: rest => rest
  | characters => characters

/-- The payloads of a stream. -/
def decode (stream : List UInt8) : List String :=
  readLines [] (endedLines [] (withoutMark (Utf8.decodeReplacing stream).toList))

end ConsoleFeed.EventStream
