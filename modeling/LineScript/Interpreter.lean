import LineScript.Machine

/-!
# Running a program

A run opens the console, executes the program from its first line, and closes the console whatever
happens. When the script is at fault, the error is located at the line where the machine stands,
noted in the journal, reported on the console, and handed back as the verdict of the run. Any other
failure is passed on.
-/

namespace LineScript

/-- How a run ended. -/
inductive Verdict where
  | ok
  /-- The script stopped with an error. -/
  | error (report : ErrorReport)
  /-- The run could not be carried out. -/
  | refused (cause : Failure)
  /-- The run had not ended after the number of steps it was allowed. -/
  | unfinished

/-- A run that has ended: its verdict, and the store, console and journal it leaves. -/
structure RunResult where
  verdict : Verdict
  store : Store
  console : Console
  journal : Journal

namespace Machine

/-- The report of a fault at the line where the machine stands, which is the last one when the
machine has gone past it. -/
def locate (m : Machine) (s : State) (fault : Fault) : Except Failure ErrorReport := do
  let index : Int := min (s.line : Int) (m.program.size - 1)
  let line ← m.program.lineAt index
  return { ErrorReport.ofFault fault with lineNumber := some (index + 1), line := some line }

/-- Notes and reports a fault, and gives the verdict on the run. -/
def conclude (m : Machine) (s : State) (fault : Fault) : Verdict × State :=
  match m.locate s fault with
  | .error cause => (.refused cause, s)
  | .ok report =>
    let s := s.note
      (.stopped m.program.filename (min s.line (m.program.size - 1) + 1) report.message)
    -- The number of a line of the program is a count, which can be written.
    match s.console.writeReport report with
    | .ok console => (.error report, { s with console })
    | .error cause => (.refused cause, s)

/-- The verdict on the outcome of the last step, and the state after it has been reported. -/
def settle (m : Machine) : Outcome → Verdict × State
  | .running s => (.unfinished, s)
  | .finished s => (.ok, s)
  | .failed s (.script fault) => m.conclude s fault
  | .failed s cause => (.refused cause, s)

end Machine

/-- Runs a program for at most `limit` steps with a given store and console. -/
def interpret (settings : Settings) (limit : Nat) (filename : String) (source : Source)
    (store : Store) (console : Console) : RunResult :=
  match source.toProgram filename with
  | .error cause => ⟨.refused cause, store, console, #[]⟩
  | .ok program =>
    let m : Machine := ⟨program, settings⟩
    let (verdict, s) := m.settle (m.run limit { store, console := console.enter })
    ⟨verdict, s.store, s.console.close, s.journal⟩

end LineScript
