import LineScript.CommandLine

/-!
# The executable

Standard input, standard output and the file at a path, around the machine. The program is executed
step by step, and what a step writes is shown at once. A step that finds no more input is taken
again with one more line, until there are none left; since a step is a function of its state, what
it wrote before is the start of what it writes then, and only the rest is shown.
-/

namespace LineScript.Main

/-- What a path leads to on disk; `21` is the system's code for reading a directory as a file. -/
def nodeOnDisk (path : Path) : IO Node := do
  try
    let bytes ← IO.FS.readBinFile ⟨Text.toString path.text⟩
    return .file bytes.toList
  catch
    | .inappropriateType _ code _ => return if code = 21 then .directory else .missing
    | .noFileOrDirectory _ _ _ => return .missing
    | .noSuchThing _ _ _ => return .missing
    | e => throw e

/-- How much of a state has been shown. -/
structure Shown where
  lines : Nat := 0
  events : Nat := 0

/-- Shows what has been written, and noted, since the last time. -/
def display (verbose : Bool) (shown : Shown) (s : State) : IO Shown := do
  if verbose then
    IO.eprint (joinLines (Journal.records (s.journal.extract shown.events)).toArray)
  let stdout ← IO.getStdout
  stdout.putStr (joinLines (s.console.written.extract shown.lines))
  stdout.flush
  return ⟨s.console.written.size, s.journal.size⟩

/-- Takes steps until the machine stops, with lines from standard input where it needs them. -/
partial def drive (m : Machine) (verbose : Bool) (shown : Shown) (s : State) :
    IO (Outcome × Shown) := do
  match m.step s with
  | .running s' => drive m verbose (← display verbose shown s') s'
  | .failed s' (.script (.inputEnded name)) =>
    let shown ← display verbose shown s'
    let typed ← (← IO.getStdin).getLine
    if typed.isEmpty then return (.failed s' (.script (.inputEnded name)), shown)
    let input := s.console.input ++ Text.streamLines (Text.unifyBreaks (Text.ofString typed))
    drive m verbose shown { s with console := { s.console with input } }
  | outcome => return (outcome, shown)

/-- Runs a program that has been loaded and gives its exit status. -/
def runLoaded (program : Program) (verbose : Bool) : IO Nat := do
  if verbose then IO.eprintln program.loadRecord
  let m : Machine := ⟨program, .standard⟩
  let (outcome, shown) ← drive m verbose {} {}
  let (verdict, s) := m.settle outcome
  let _ ← display verbose shown s
  return CommandLine.statusOf verdict

/-- Loads and runs the program at a path. -/
def runPath (program : Text) (verbose : Bool) : IO Nat := do
  IO.print (CommandLine.greeting program)
  let path := Path.ofText program
  let status ←
    match Program.ofNode .utf8 path (← nodeOnDisk path) with
    | .ok loaded => runLoaded loaded verbose
    | .error e => do
      IO.print (CommandLine.loadReport e)
      pure 2
  IO.print CommandLine.farewell
  return status

/-- Carries out a call of the command line and gives its exit status. -/
def execute (arguments : List Text) : IO Nat := do
  match Invocation.ofArguments arguments with
  | .help =>
    IO.print CommandLine.helpText
    return 0
  | .refuse e =>
    IO.eprint (CommandLine.usageReport e)
    return 2
  | .run program verbose => runPath program verbose

end LineScript.Main

/-- The entry point. -/
def main (arguments : List String) : IO UInt32 := do
  return (← LineScript.Main.execute (arguments.map LineScript.Text.ofString)).toUInt32
