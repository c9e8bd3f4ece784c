import LineScript.Failure
import LineScript.Text.Lines

/-!
# Programs

A program is a numbered list of lines, together with the text they were taken from and the name
under which it is known. A line's depth is the number of spaces it starts with; a line of blank
characters only is blank and has no part in the structure of blocks.
-/

namespace LineScript

open Text

/-- The number of spaces a line starts with. -/
def depthOf (line : Text) : Nat := (line.takeWhile (· == ' ')).length

/-- A program. Its lines are those of its text. -/
structure Program where
  filename : String
  source : Text
  lines : Array Text
  lines_eq : lines = (Text.lines source).toArray
  deriving DecidableEq

namespace Program

/-- The name of a program that comes from no file. -/
def defaultName : String := "<esp>"

/-- The program with a given text. -/
def ofText (filename : String) (source : Text) : Program :=
  ⟨filename, source, (Text.lines source).toArray, rfl⟩

/-- The program with the given lines: line ends at the end of a line are dropped, and a line that
still holds one is several lines. -/
def ofLines (filename : String) (lines : List Text) : Program :=
  ofText filename (unlines (lines.map chomp))

/-- The number of lines. -/
def size (p : Program) : Nat := p.lines.size

/-- The line with a given index, counted from zero. -/
def line? (p : Program) (i : Nat) : Option Text := p.lines[i]?

/-- The line with a given index; a negative index counts from the end. -/
def lineAt (p : Program) (i : Int) : Except Failure Text :=
  let place := if i < 0 then i + p.size else i
  match if place < 0 then none else p.line? place.toNat with
  | some line => .ok line
  | none => .error .lineOutOfRange

/-- The description of a program. -/
def describe (p : Program) : String :=
  "<ProgramCode " ++ Text.toString (quoted (Text.ofString p.filename)) ++ " lines=" ++
    Numeral.count p.size ++ ">"

end Program

/-- A program in the form in which it is handed to a run. -/
inductive Source where
  | text (source : Text)
  | lines (lines : List Text)
  | program (program : Program)
  /-- Something that is no program at all. -/
  | unusable

namespace Source

/-- The program to run; a name is given to it unless it has one. -/
def toProgram (filename : String) : Source → Except Failure Program
  | text source => .ok (.ofText filename source)
  | lines ls => .ok (.ofLines filename ls)
  | program p => .ok p
  | unusable => .error .unusableSource

end Source

end LineScript
