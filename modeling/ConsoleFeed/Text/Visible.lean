import ConsoleFeed.Text.Digits
import ConsoleFeed.Text.Unprintable

/-!
# Visible quoting

Where a text is shown to a person, in an error's inner form or in a log line, it stands between
quotes and every character of it can be seen: the quote, the backslash, line breaks, tabs and NUL
have short escapes, and any other character without a picture of its own is given by its number.
-/

namespace ConsoleFeed.Visible

/-- How a character stands between quotes. -/
def escaped (character : Char) : List Char :=
  match character with
  | '"' => ['\\', '"']
  | '\\' => ['\\', '\\']
  | '\n' => ['\\', 'n']
  | '\r' => ['\\', 'r']
  | '\t' => ['\\', 't']
  | '\x00' => ['\\', '0']
  | _ =>
      if Unprintable.holds character then
        '\\' :: 'u' :: '\x7b' :: Digits.hex character.toNat ++ ['\x7d']
      else [character]

/-- A text between quotes. -/
def quoted (text : String) : String :=
  String.ofList ('"' :: text.toList.flatMap escaped ++ ['"'])

end ConsoleFeed.Visible
