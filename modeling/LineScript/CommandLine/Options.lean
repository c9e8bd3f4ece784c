import LineScript.Text.Digit
import LineScript.Text.Quoted

/-!
# Arguments of the command line

The command line takes the path of one program and two options, `-h`/`--help` and
`-v`/`--verbose`. Long options may be shortened as long as only one of them fits, and short ones
run together. An argument that starts with a dash and is neither an option, a negative number nor
holds a space is an unknown option. The argument `--` ends the options: everything after it is an
ordinary argument, and it is dropped itself if the program's path stands next to it.

Every argument is recognised before any takes effect, so that an ambiguous option is refused first.
Then options take effect in order: asking for help ends the work at once, and a value given to an
option is refused. At last the program has to be there and nothing may be left over.
-/

namespace LineScript

/-- An option of the command line. -/
inductive Flag where
  | help | verbose
  deriving DecidableEq

namespace Flag

/-- The letter of the short form. -/
def letter : Flag → Char
  | help => 'h'
  | verbose => 'v'

/-- The long form. -/
def long : Flag → Text
  | help => Text.ofString "--help"
  | verbose => Text.ofString "--verbose"

/-- The short form. -/
def short (f : Flag) : Text := ['-', f.letter]

/-- Every option. -/
def all : List Flag := [help, verbose]

/-- How messages name the option. -/
def label (f : Flag) : Text := f.short ++ '/' :: f.long

/-- The option with a given letter. -/
def ofLetter? (c : Char) : Option Flag := all.find? fun f => f.letter == c

/-- The long options that a text abbreviates. -/
def abbreviated (t : Text) : List Flag := all.filter fun f => t.isPrefixOf f.long

end Flag

/-- An argument, as it is recognised before any takes effect. -/
inductive Argument where
  /-- The path of a program, or something left over. -/
  | plain (t : Text)
  /-- An option in its long form, perhaps with a value after `=`. -/
  | long (f : Flag) (value : Option Text)
  /-- An option in its short form, and what follows its letter or a `=` behind it. -/
  | short (f : Flag) (tail : Option Text)
  /-- A word in the form of an option that is none. -/
  | unknown (t : Text)
  /-- The end of the options. -/
  | dashes

/-- A reason for which arguments are refused. -/
inductive UsageError where
  | ambiguous (t : Text) (candidates : List Flag)
  /-- An option was given a value. -/
  | ignoredValue (f : Flag) (value : Text)
  | programRequired
  | unrecognized (arguments : List Text)

namespace UsageError

/-- The wording of a usage error. -/
def message : UsageError → String
  | ambiguous t candidates =>
    "ambiguous option: " ++ Text.toString t ++ " could match " ++
      Text.toString ([',', ' '].intercalate (candidates.map Flag.long))
  | ignoredValue f value =>
    "argument " ++ Text.toString f.label ++ ": ignored explicit argument " ++
      Text.toString (Text.quoted value)
  | programRequired => "the following arguments are required: program"
  | unrecognized arguments =>
    "unrecognized arguments: " ++ Text.toString ([' '].intercalate arguments)

end UsageError

namespace Argument

/-- The part of a text before its first `=`, and the part after it, if there is one. -/
def splitEqual : Text → Text × Option Text
  | [] => ([], none)
  | '=' :: rest => ([], some rest)
  | c :: rest => ((c :: (splitEqual rest).1), (splitEqual rest).2)

/-- Whether a text is a run of decimal digits. -/
def allDigits (t : Text) : Bool := t.all fun c => (Text.digitValue? c).isSome

/-- Whether a text is a number without a sign: digits, or a point with digits behind it and perhaps
in front of it. -/
def isUnsigned (t : Text) : Bool :=
  match t.dropWhile fun c => (Text.digitValue? c).isSome with
  | [] => !t.isEmpty
  | '.' :: fraction => !fraction.isEmpty && allDigits fraction
  | _ => false

/-- A text without one line feed at its end. -/
def dropLineFeed (t : Text) : Text := if t.getLast? = some '\n' then t.dropLast else t

/-- Whether what follows a dash makes a negative number; a line feed at the end does not count. -/
def isNegative (afterDash : Text) : Bool := isUnsigned (dropLineFeed afterDash)

/-- Recognises an argument that starts with two dashes. -/
def ofDoubleDash (t : Text) : Except UsageError Argument :=
  let (name, value) := splitEqual t
  match Flag.all.find? fun f => f.long == name with
  | some f => .ok (.long f value)
  | none =>
    match Flag.abbreviated name with
    | [f] => .ok (.long f value)
    | [] => .ok (if t.contains ' ' then .plain t else .unknown t)
    | candidates => .error (.ambiguous t candidates)

/-- Recognises an argument made of a dash, a character that is no dash, and a tail. -/
def ofDash (c : Char) (tail : Text) : Argument :=
  let t := '-' :: c :: tail
  match Flag.ofLetter? c with
  | some f =>
    match tail with
    | [] => .short f none
    | '=' :: value => .short f (some value)
    | _ => .short f (some tail)
  | none => if isNegative (c :: tail) || t.contains ' ' then .plain t else .unknown t

/-- Recognises an argument before the end of the options. -/
def ofText (t : Text) : Except UsageError Argument :=
  match t with
  | ['-', '-'] => .ok .dashes
  | '-' :: '-' :: _ => ofDoubleDash t
  | '-' :: c :: tail => .ok (ofDash c tail)
  | _ => .ok (.plain t)

/-- Recognises all arguments. -/
def ofTexts : List Text → Except UsageError (List Argument)
  | [] => .ok []
  | t :: rest => do
    match ← ofText t with
    | .dashes => return .dashes :: rest.map .plain
    | argument => return argument :: (← ofTexts rest)

end Argument

/-- What a command line asks for. -/
inductive Invocation where
  | help
  | refuse (error : UsageError)
  | run (program : Text) (verbose : Bool)

namespace Invocation

/-- What the arguments taken so far amount to. -/
structure Progress where
  program : Option Text := none
  verbose : Bool := false
  /-- What is left over, the last first. -/
  extras : List Text := []
  /-- Whether the last argument taken is the program. -/
  atProgram : Bool := false

/-- The options in a short form that runs several together: the flag, then the flags whose letters
follow. -/
def cluster (f : Flag) : Text → Except UsageError (List Flag)
  | [] => .ok [f]
  | c :: tail =>
    match Flag.ofLetter? c with
    | some g => (cluster g tail).map (f :: ·)
    | none => .error (.ignoredValue f (c :: tail))

/-- The options an argument in short form stands for. -/
def shortFlags (f : Flag) : Option Text → Except UsageError (List Flag)
  | none => .ok [f]
  | some [] => .error (.ignoredValue f [])
  | some tail => cluster f tail

/-- The options an argument in long form stands for. -/
def longFlags (f : Flag) : Option Text → Except UsageError (List Flag)
  | none => .ok [f]
  | some value => .error (.ignoredValue f value)

/-- Takes an ordinary argument: the first is the program. -/
def Progress.takePlain (p : Progress) (t : Text) : Progress :=
  match p.program with
  | none => { p with program := some t, atProgram := true }
  | some _ => { p with extras := t :: p.extras, atProgram := false }

/-- Takes the end of the options, with the number of arguments behind it. -/
def Progress.takeDashes (p : Progress) (behind : Nat) : Progress :=
  if p.atProgram || (p.program.isNone && behind != 0) then p
  else { p with extras := ['-', '-'] :: p.extras }

/-- Decides what the arguments ask for once all have been taken. -/
def finish (p : Progress) : Invocation :=
  match p.program, p.extras with
  | none, _ => .refuse .programRequired
  | some program, [] => .run program p.verbose
  | some _, extras => .refuse (.unrecognized extras.reverse)

/-- Takes arguments one after the other. -/
def take (p : Progress) : List Argument → Invocation
  | [] => finish p
  | .plain t :: rest => take (p.takePlain t) rest
  | .unknown t :: rest => take { p with extras := t :: p.extras, atProgram := false } rest
  | .dashes :: rest => take (p.takeDashes rest.length) rest
  | .long f value :: rest =>
    match longFlags f value with
    | .error e => .refuse e
    | .ok flags =>
      if .help ∈ flags then .help else take { p with verbose := true, atProgram := false } rest
  | .short f tail :: rest =>
    match shortFlags f tail with
    | .error e => .refuse e
    | .ok flags =>
      if .help ∈ flags then .help else take { p with verbose := true, atProgram := false } rest

/-- What the arguments of a command line ask for. -/
def ofArguments (arguments : List Text) : Invocation :=
  match Argument.ofTexts arguments with
  | .error e => .refuse e
  | .ok recognised => take {} recognised

end Invocation

end LineScript
