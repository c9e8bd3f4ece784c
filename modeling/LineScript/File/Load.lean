import LineScript.File.Encoding
import LineScript.File.Tree
import LineScript.Program

/-!
# Loading a program from a file

The file at a path is decoded, its line ends are written as line feeds, and the result is a program
known by its path.
-/

namespace LineScript

/-- A reason for which no program can be loaded from a path. -/
inductive LoadError where
  | missing (path : Path)
  | notFile (path : Path)
  | undecodable (path : Path) (fault : DecodeFault)
  deriving DecidableEq

namespace LoadError

/-- The wording of a load error. -/
def message : LoadError → String
  | missing path => "The file " ++ Text.toString path.text ++ " doesn't exist."
  | notFile path => "The path " ++ Text.toString path.text ++ " is not a file."
  | undecodable path fault =>
    "The file " ++ Text.toString path.text ++ " could not be read: " ++ fault.message

/-- Whether nothing was found at the path. -/
def isMissing : LoadError → Bool
  | missing _ => true
  | _ => false

end LoadError

namespace Program

/-- The program in what a path leads to. -/
def ofNode (encoding : Encoding) (path : Path) : Node → Except LoadError Program
  | .missing => .error (.missing path)
  | .directory => .error (.notFile path)
  | .file bytes =>
    match encoding.decode bytes with
    | .ok text => .ok (.ofText (Text.toString path.text) (Text.unifyBreaks text))
    | .error fault => .error (.undecodable path fault)

/-- The program at a path of a file tree. -/
def load (tree : FileTree) (encoding : Encoding) (path : Path) : Except LoadError Program :=
  ofNode encoding path (tree.find path)

/-- The record in the log of a program that has been loaded. -/
def loadRecord (p : Program) : String :=
  "DEBUG:esplang.lib.loader:loaded " ++ p.filename ++ " (" ++ Numeral.count p.size ++ " lines)"

end Program

end LineScript
