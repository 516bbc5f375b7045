/-!
# Lines

A line ends at a line feed, and a carriage return right before that line feed belongs to the line's end. What follows the
last line feed is a line too unless it is empty, and there a carriage return stays.
-/

namespace StagedLaunch

/-- A line without the carriage return that stood before its line feed; the line is given backwards. -/
def closeLine : List Char → List Char
  | '\r' :: rest => rest.reverse
  | line => line.reverse

/-- The lines of a text, when `line` was read before it, backwards, since the last line feed. -/
def linesFrom (line : List Char) : List Char → List (List Char)
  | [] => if line.isEmpty then [] else [line.reverse]
  | '\n' :: rest => closeLine line :: linesFrom [] rest
  | c :: rest => linesFrom (c :: line) rest

/-- The lines of a text. -/
def lines (cs : List Char) : List (List Char) :=
  linesFrom [] cs

end StagedLaunch
