import LineScript.Text.Range

/-!
# Lines of a text

A line ends at a carriage return followed by a line feed, at a carriage return alone, or at a line
feed; no other character ends one. What follows the last line end is a line of its own only when it
is not empty. `lines` and `unlines` go between a text and its lines, and `unifyBreaks` writes every
line end as a line feed.
-/

namespace LineScript.Text

/-- Puts a character in front of the first of some pieces. -/
def consHead (c : Char) : List Text → List Text
  | [] => [[c]]
  | piece :: pieces => (c :: piece) :: pieces

/-- The pieces between the line ends of a text, an empty last piece included. -/
def pieces : Text → List Text
  | [] => [[]]
  | '\r' :: '\n' :: rest => [] :: pieces rest
  | '\r' :: rest => [] :: pieces rest
  | '\n' :: rest => [] :: pieces rest
  | c :: rest => consHead c (pieces rest)

/-- A list of lines without its last line if that is empty. -/
def dropEmptyLast : List Text → List Text
  | [] => []
  | [last] => if last.isEmpty then [] else [last]
  | line :: rest => line :: dropEmptyLast rest

/-- The lines of a text. -/
def lines (t : Text) : List Text := dropEmptyLast (pieces t)

/-- Lines joined by line feeds. -/
def unlines (ls : List Text) : Text := ['\n'].intercalate ls

/-- The text with each line end written as one line feed. -/
def unifyBreaks : Text → Text
  | [] => []
  | '\r' :: '\n' :: rest => '\n' :: unifyBreaks rest
  | '\r' :: rest => '\n' :: unifyBreaks rest
  | c :: rest => c :: unifyBreaks rest

/-- Whether a character takes part in a line end. -/
def isBreak (c : Char) : Bool := c == '\r' || c == '\n'

/-- A line without the line ends that close it. -/
def chomp (t : Text) : Text := (t.reverse.dropWhile isBreak).reverse

/-- The lines of a stream, where only a line feed ends a line; an unfinished last line counts. -/
def streamLines : Text → List Text
  | [] => []
  | '\n' :: rest => [] :: streamLines rest
  | c :: rest => consHead c (streamLines rest)

end LineScript.Text
