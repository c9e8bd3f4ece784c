import LineScript.Fault
import LineScript.Text.Blank

/-!
# Statements

A line that is not blank holds one statement, in one of five forms:

* `input` and a word, the variable to read into;
* `print`, `if` or `goto` and an expression;
* a word without `=`, then `=` not followed by a second `=`, then an expression.

A keyword is followed by at least one blank, blanks around `=` are optional, and blanks at the end
of the line do not count. An expression starts with a character that is not blank and holds no line
feed. The keyword forms come first, so that a word is read as a keyword where both readings apply.
Whether a word names a variable and whether an expression can be evaluated is decided only when the
statement is executed.
-/

namespace LineScript

/-- The kinds of statement. -/
inductive Kind where
  | input | assignment | output | branch | jump
  deriving DecidableEq

namespace Kind

/-- The name of a kind of statement in records and messages. -/
def name : Kind → String
  | input => "INPUT"
  | assignment => "ASSIGNMENT"
  | output => "OUTPUT"
  | branch => "IF"
  | jump => "GOTO"

/-- The word for a kind of statement. -/
def word : Kind → String
  | input => "input"
  | assignment => "assignment"
  | output => "output"
  | branch => "if"
  | jump => "goto"

/-- Every kind of statement. -/
def all : List Kind := [input, assignment, output, branch, jump]

/-- The kind of statement with a given name. -/
def ofName? (name : String) : Option Kind := all.find? fun kind => kind.name == name

end Kind

/-- What a statement does. -/
inductive Action where
  | input (target : Text)
  | assignment (target expression : Text)
  | output (expression : Text)
  | branch (condition : Text)
  | jump (expression : Text)
  deriving DecidableEq

namespace Action

/-- The kind of statement with a given action. -/
def kind : Action → Kind
  | input _ => .input
  | assignment _ _ => .assignment
  | output _ => .output
  | branch _ => .branch
  | jump _ => .jump

/-- The word for the variable that is given a value. -/
def target? : Action → Option Text
  | input target => some target
  | assignment target _ => some target
  | _ => none

/-- The expression that is evaluated. -/
def expression? : Action → Option Text
  | input _ => none
  | assignment _ expression => some expression
  | output expression => some expression
  | branch condition => some condition
  | jump expression => some expression

end Action

/-- A statement: the text of its line, without blanks at the end, and what it does. -/
structure Statement where
  text : Text
  action : Action
  deriving DecidableEq

namespace Statement

open Text

/-- What follows a word at the start of a text. -/
def afterWord? : Text → Text → Option Text
  | [], t => some t
  | _ :: _, [] => none
  | c :: word, d :: t => if c = d then afterWord? word t else none

/-- What follows a keyword and the blanks behind it, of which there is at least one. -/
def afterKeyword? (keyword line : Text) : Option Text :=
  match afterWord? keyword line with
  | some (c :: rest) => if isBlank c then some (trimLeft rest) else none
  | _ => none

/-- Whether a text without blanks at its start is an expression of a statement. -/
def isExpression (t : Text) : Bool := !t.isEmpty && !t.contains '\n'

/-- The action of a line in the form of a keyword and a variable. -/
def inputForm? (line : Text) : Option Action := do
  let target ← afterKeyword? ['i', 'n', 'p', 'u', 't'] line
  if !target.isEmpty && target.all (!isBlank ·) then some (.input target) else none

/-- The expression of a line in the form of a keyword and an expression. -/
def keywordForm? (keyword line : Text) : Option Text := do
  let expression ← afterKeyword? keyword line
  if isExpression expression then some expression else none

/-- Whether a character can stand in the word before `=`. -/
def isTargetChar (c : Char) : Bool := !isBlank c && c != '='

/-- The action of a line in the form of an assignment. -/
def assignmentForm? (line : Text) : Option Action :=
  match line.takeWhile isTargetChar, trimLeft (line.dropWhile isTargetChar) with
  | c :: target, '=' :: rest =>
    if rest.head? ≠ some '=' ∧ isExpression (trimLeft rest) = true then
      some (.assignment (c :: target) (trimLeft rest))
    else none
  | _, _ => none

/-- The action of a line without blanks at its end. -/
def actionOf? (line : Text) : Option Action :=
  inputForm? line
    <|> (keywordForm? ['p', 'r', 'i', 'n', 't'] line).map .output
    <|> (keywordForm? ['i', 'f'] line).map .branch
    <|> (keywordForm? ['g', 'o', 't', 'o'] line).map .jump
    <|> assignmentForm? line

/-- The statement on a line whose indentation has been removed. -/
def parse (t : Text) : Except Fault Statement :=
  let line := trimRight t
  match actionOf? line with
  | some action => .ok ⟨line, action⟩
  | none => .error (.unrecognizedStatement line)

/-- The kind of a statement. -/
def kind (s : Statement) : Kind := s.action.kind

end Statement

end LineScript
