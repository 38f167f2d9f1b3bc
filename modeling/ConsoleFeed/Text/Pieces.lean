/-!
# Pieces between separators

A path is cut at its slashes, a query at its ampersands. Cutting keeps every piece, the empty ones
before, between and after separators too, so that a text without separators is one piece; pieces can
be put together with separators between them.
-/

namespace ConsoleFeed.Pieces

/-- Puts a character before the first piece. -/
def extend (character : Char) : List (List Char) → List (List Char)
  | [] => [[character]]
  | first :: others => (character :: first) :: others

/-- The pieces of a list between separators. -/
def split (separator : Char) : List Char → List (List Char)
  | [] => [[]]
  | character :: rest =>
      if character = separator then [] :: split separator rest
      else extend character (split separator rest)

/-- What the pieces are with separators between them. -/
def join (separator : Char) : List (List Char) → List Char
  | [] => []
  | [piece] => piece
  | piece :: next :: others => piece ++ separator :: join separator (next :: others)

end ConsoleFeed.Pieces
