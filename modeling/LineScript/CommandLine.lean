import LineScript.CommandLine.Options
import LineScript.File.Load
import LineScript.Interpreter

/-!
# The command line

The command line loads one program and runs it with an empty store, writing to standard output and,
when it is verbose, the records of the log to standard error. The exit status is 0 when the program
ran to its end, 1 when it stopped with an error, and 2 when there was no program to run.
-/

namespace LineScript

/-- What a call of the command line leaves behind. -/
structure Execution where
  status : Nat
  stdout : String
  stderr : String

namespace CommandLine

/-- The usage line. -/
def usage : String := "usage: python -m esplang <program.esp>\n"

/-- The help text. -/
def helpText : String :=
  usage ++ "\npositional arguments:\n  program\n\noptions:\n" ++
    "  -h, --help     show this help message and exit\n" ++
    "  -v, --verbose  log execution to stderr\n"

/-- What is written about a usage error. -/
def usageReport (e : UsageError) : String :=
  usage ++ "python -m esplang: error: " ++ e.message ++ "\n"

/-- The line that names the program to run. -/
def greeting (program : Text) : String := "The input file is " ++ Text.toString program ++ "\n"

/-- What is written when there is no program to run. -/
def loadReport (e : LoadError) : String := e.message ++ "\nNo program loaded.\n"

/-- The last line. -/
def farewell : String := "Done.\n"

/-- The exit status after a run. -/
def statusOf : Verdict → Nat
  | .ok => 0
  | _ => 1

/-- The records of a log, one per line, if they are wanted. -/
def logText (verbose : Bool) (records : List String) : String :=
  if verbose then joinLines records.toArray else ""

/-- Loads and runs a program. -/
def runProgram (tree : FileTree) (limit : Nat) (stdin program : Text) (verbose : Bool) :
    Execution :=
  match Program.load tree .utf8 (.ofText program) with
  | .error e => ⟨2, greeting program ++ loadReport e ++ farewell, ""⟩
  | .ok loaded =>
    let console : Console := { input := Text.streamLines (Text.unifyBreaks stdin) }
    let r := interpret .standard limit loaded.filename (.program loaded) .empty console
    { status := statusOf r.verdict
      stdout := greeting program ++ r.console.output ++ farewell
      stderr := logText verbose (loaded.loadRecord :: r.journal.records) }

/-- Carries out a call of the command line. -/
def execute (tree : FileTree) (limit : Nat) (arguments : List Text) (stdin : Text) : Execution :=
  match Invocation.ofArguments arguments with
  | .help => ⟨0, helpText, ""⟩
  | .refuse e => ⟨2, "", usageReport e⟩
  | .run program verbose => runProgram tree limit stdin program verbose

end CommandLine

end LineScript
