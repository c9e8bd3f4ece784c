import LineScript.Statement

/-!
# The journal of a run

A run notes what happens as events. Two views are taken from them: the records of a log, one line
for each event worth one, and the trace of the statements that were executed.
-/

namespace LineScript

/-- Something that happened during a run. Lines are numbered from one. -/
inductive Event where
  /-- A statement is about to be executed in a block of this depth. -/
  | dispatched (line depth : Nat) (statement : Statement)
  /-- The statement has been executed; it left this depth and perhaps jumped to a line. -/
  | completed (depth : Nat) (target : Option Nat)
  | entered (depth : Nat)
  | left (before after : Nat)
  | jumped (line : Nat)
  /-- An integer of this length was refused at the console. -/
  | rejected (length : Nat)
  /-- The run of a program stopped because of an error on a line. -/
  | stopped (filename : String) (line : Nat) (message : String)
  deriving DecidableEq

namespace Event

open Numeral (count)

/-- The record of an event in the log. The depth of a block that has been entered grows with the
indent unit, and a record that would show it past the digit limit is lost. -/
def record? : Event → Option String
  | dispatched line _ statement =>
    some ("DEBUG:esplang.core:line " ++ count line ++ ": " ++ statement.kind.name ++ " " ++
      Text.toString (Text.quoted statement.text))
  | completed _ _ => none
  | entered depth => (Numeral.decimal? depth).map fun shown =>
    "DEBUG:esplang.statements:entering block at depth " ++ Text.toString shown
  | left before after => (Numeral.decimal? before).map fun shown =>
    "DEBUG:esplang.core:leaving block, depth " ++ Text.toString shown ++ " -> " ++ count after
  | jumped line => some ("DEBUG:esplang.statements:jumping to line " ++ count line)
  | rejected length =>
    some ("DEBUG:esplang.lib.console:rejected " ++ count length ++ "-character integer input")
  | stopped filename line message =>
    some ("INFO:esplang.core:" ++ filename ++ ": line " ++ count line ++ ": " ++ message)

end Event

/-- The events of a run, in order. -/
abbrev Journal := Array Event

/-- One executed statement: where and at what depth it stood, its kind and, unless it failed, the
depth it left and the line it jumped to. -/
structure TraceEntry where
  line : Nat
  depth : Nat
  kind : Kind
  outcome : Option (Nat × Option Nat)
  deriving DecidableEq

/-- The outcome of the statement dispatched just before some events. -/
def outcomeOf : List Event → Option (Nat × Option Nat)
  | [] => none
  | .completed depth target :: _ => some (depth, target)
  | .dispatched _ _ _ :: _ => none
  | _ :: events => outcomeOf events

/-- The trace of a list of events. -/
def traceOf : List Event → List TraceEntry
  | [] => []
  | .dispatched line depth statement :: events =>
    ⟨line, depth, statement.kind, outcomeOf events⟩ :: traceOf events
  | _ :: events => traceOf events

namespace Journal

/-- The records of the log. -/
def records (j : Journal) : List String := j.toList.filterMap Event.record?

/-- The statements that were executed. -/
def trace (j : Journal) : List TraceEntry := traceOf j.toList

end Journal

end LineScript
