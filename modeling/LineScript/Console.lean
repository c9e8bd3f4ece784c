import LineScript.Failure
import LineScript.Text.Blank

/-!
# The console

A console holds the lines still to be read, the lines written so far, whether it is closed, and how
often its output has been flushed. Writing to a closed console fails. Reading an integer prompts
for it and then takes lines until one of them is an integer, prompting again after every line that
is not; the output is flushed after each prompt.
-/

namespace LineScript

/-- A console between two operations. -/
structure Console where
  /-- The lines that have not been read yet. -/
  input : List Text := []
  /-- The lines written so far. -/
  written : Array String := #[]
  closed : Bool := false
  flushes : Nat := 0
  deriving DecidableEq

/-- An error of a script as it is reported: its kind and wording, and the line it belongs to, if
that is known. -/
structure ErrorReport where
  category : Category
  message : String
  lineNumber : Option Int := none
  line : Option Text := none
  deriving DecidableEq

namespace ErrorReport

/-- The report of a fault that has not been located. -/
def ofFault (fault : Fault) : ErrorReport :=
  { category := fault.category, message := fault.message }

/-- Whether the line number of a report can be written. -/
def isWritable (e : ErrorReport) : Bool := e.lineNumber.all fun n => (Numeral.decimal? n).isSome

/-- The line of a report that says where the error is. -/
def placeLine (e : ErrorReport) : String :=
  "Line " ++ (e.lineNumber.map fun n => Text.toString (Numeral.decimal n)).getD "None" ++ ": " ++
    (e.line.map Text.toString).getD "None"

/-- The line of a report that says what the error is. -/
def causeLine (e : ErrorReport) : String :=
  (if e.category.isFormal then "Syntax error: " else "") ++ e.category.name ++ ": " ++ e.message

end ErrorReport

/-- Lines joined to a text in which each is ended by a line feed. -/
def joinLines (lines : Array String) : String :=
  lines.foldl (fun text line => text ++ line ++ "\n") ""

namespace Console

/-- All text written so far. -/
def output (c : Console) : String := joinLines c.written

/-- The console made ready for use. -/
def enter (c : Console) : Console := { c with closed := false }

/-- The console after its output has been flushed. -/
def flush (c : Console) : Console := { c with flushes := c.flushes + 1 }

/-- The console closed; closing it twice has no effect. -/
def close (c : Console) : Console := if c.closed then c else { c.flush with closed := true }

/-- The console after one more line, whether or not it is closed. -/
def write (c : Console) (line : String) : Console := { c with written := c.written.push line }

/-- Writes a line. -/
def emit (c : Console) (line : String) : Except Failure Console :=
  if c.closed then .error .consoleClosed else .ok (c.write line)

/-- Writes the two lines of a report. -/
def writeReport (c : Console) (e : ErrorReport) : Except Failure Console := do
  (← c.emit e.placeLine).emit e.causeLine

/-- Reports an error, unless its line number is too long to be written. -/
def report (c : Console) (e : ErrorReport) : Except Failure Console :=
  if e.isWritable then c.writeReport e else .error .digitLimit

/-- The first prompt for a value. -/
def prompt (name : Text) : String :=
  "Enter an integer number for variable " ++ Text.toString name ++ ": "

/-- The prompt after a line that is not an integer. -/
def promptAgain : String := "Please enter a valid integer number: "

/-- The console after a prompt. -/
def ask (c : Console) (line : String) : Console := (c.write line).flush

/-- What came of reading an integer. -/
structure Reading where
  console : Console
  /-- The lengths of the integers that were refused for being too long. -/
  rejected : List Nat := []
  result : Except Failure Int

/-- Takes lines until one of them is an integer. -/
def awaitInteger (name : Text) : List Text → Console → Reading
  | [], c => { console := { c with input := [] }, result := .error (.script (.inputEnded name)) }
  | line :: rest, c =>
    match Numeral.entry (Text.trim line) with
    | .integer value => { console := { c with input := rest }, result := .ok value }
    | .tooLong length =>
      let reading := awaitInteger name rest (c.ask promptAgain)
      { reading with rejected := length :: reading.rejected }
    | .other => awaitInteger name rest (c.ask promptAgain)

/-- Asks for an integer and reads it. -/
def readInteger (c : Console) (name : Text) : Reading :=
  if c.closed then { console := c, result := .error .consoleClosed }
  else awaitInteger name c.input (c.ask (prompt name))

end Console

end LineScript
