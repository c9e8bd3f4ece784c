import LineScript.Fault
import LineScript.Statement

/-!
# Failures

A request to the library fails because of a fault in a script, which a run reports and hands back,
or because it could not be carried out at all. `Failure` has one constructor per cause and
`Failure.message` its wording.
-/

namespace LineScript

/-- A reason for which a request fails. -/
inductive Failure where
  /-- The script is at fault. -/
  | script (fault : Fault)
  /-- Something was to be written while the console was closed. -/
  | consoleClosed
  /-- Blocks were to be indented by no spaces at all. -/
  | badIndentUnit
  /-- An integer past the digit limit was to be written in full. -/
  | digitLimit
  /-- What was given as a program has no lines. -/
  | unusableSource
  /-- A program has no line with this index. -/
  | lineOutOfRange
  /-- Statements of this kind are not supported. -/
  | unsupported (kind : Kind)
  deriving DecidableEq

namespace Failure

/-- The failure whose message has to show something: a fault of the script if there is a text for
it, which there is not for an integer past the digit limit. -/
def showing (fault : Text → Fault) : Option Text → Failure
  | some shown => script (fault shown)
  | none => digitLimit

/-- The wording of a failure. -/
def message : Failure → String
  | script fault => fault.message
  | consoleClosed => "I/O operation on closed console"
  | badIndentUnit => "indent_unit must be a positive number of spaces"
  | digitLimit =>
    "Exceeds the limit (4300 digits) for integer string conversion; " ++
      "use sys.set_int_max_str_digits() to increase the limit"
  | unusableSource => "source must be str, a sequence of lines, or ProgramCode"
  | lineOutOfRange => "tuple index out of range"
  | unsupported kind => "Statement not supported: " ++ kind.name

end Failure

end LineScript
