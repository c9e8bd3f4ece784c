import LineScript.Expr.Operator
import LineScript.Numeral
import LineScript.Text.Quoted

/-!
# Faults of a script

A `Fault` is a reason for which a script cannot go on: one constructor per cause, with the data its
message shows. `Fault.category` sorts the causes into the kinds of error a report names, and
`Fault.message` is the only place where they are worded.
-/

namespace LineScript

/-- The kinds of error a report names. -/
inductive Category where
  | invalidSyntax
  | undefinedVariable
  | invalidIdentifier
  | arithmetic
  | operator
  | input
  | general
  deriving DecidableEq

namespace Category

/-- The name under which a report shows the kind of error. -/
def name : Category → String
  | invalidSyntax => "InvalidSyntaxError"
  | undefinedVariable => "UndefinedVariableError"
  | invalidIdentifier => "InvalidIdentifierError"
  | arithmetic => "ScriptArithmeticError"
  | operator => "OperatorError"
  | input => "ScriptInputError"
  | general => "ScriptError"

/-- Every kind of error. -/
def all : List Category :=
  [invalidSyntax, undefinedVariable, invalidIdentifier, arithmetic, operator, input, general]

/-- The kind of error with a given name. -/
def ofName? (name : String) : Option Category := all.find? fun category => category.name == name

/-- Whether errors of this kind are reported as errors of form. -/
def isFormal : Category → Bool
  | invalidSyntax => true
  | _ => false

end Category

/-- A reason for which a script cannot go on. -/
inductive Fault where
  /-- No token of an expression can start with this character. -/
  | unrecognizedCharacter (c : Char)
  /-- A name in an expression has more than one character. -/
  | longName (name : Text)
  | unmatchedRightParen
  | unmatchedLeftParen
  | emptyExpression
  | malformedExpression
  /-- A number word of this length is past the digit limit or has no decimal value. -/
  | literalTooLong (length : Nat)
  | missingOperand (op : Operator)
  /-- The result of a comparison stands where a number is needed. -/
  | truthOperand (op : Operator)
  /-- An item of postfix order is neither a number, a name nor an operator. -/
  | unknownOperator (item : Text)
  /-- No binary operator has this spelling. -/
  | unsupportedOperator (spelling : Text)
  /-- A comparison stands outside of a condition. -/
  | strayComparison (op : Comparison)
  /-- A condition holds this number of comparisons, which is not one. -/
  | comparisonCount (found : Nat)
  | conditionWithoutTruth
  | divisionByZero
  /-- An integer of this bit length has no decimal text within the digit limit. -/
  | tooLargeToWrite (bits : Nat)
  /-- Something, shown this way, is not the name of a variable. -/
  | invalidName (shown : Text)
  | undefinedVariable (letter : Char)
  | unrecognizedStatement (line : Text)
  /-- The leading spaces of a line are followed by another blank character. -/
  | blankAfterIndent
  /-- The depth of a line is no multiple of the indent unit, which is shown this way. -/
  | unevenDepth (depth : Nat) (unit : Text)
  | jumpOutside (target : Int) (length : Nat)
  | jumpIntoBlock (line : Nat)
  /-- The input ended while a value for this name was awaited. -/
  | inputEnded (name : Text)
  deriving DecidableEq

namespace Fault

open Numeral (count)

/-- The kind of error a fault is. -/
def category : Fault → Category
  | unrecognizedCharacter _ | longName _ | unmatchedRightParen | unmatchedLeftParen
  | emptyExpression | malformedExpression | literalTooLong _ | missingOperand _ | truthOperand _
  | comparisonCount _ | conditionWithoutTruth | unrecognizedStatement _ | blankAfterIndent
  | unevenDepth _ _ | jumpOutside _ _ | jumpIntoBlock _ => .invalidSyntax
  | unknownOperator _ | unsupportedOperator _ | strayComparison _ => .operator
  | divisionByZero | tooLargeToWrite _ => .arithmetic
  | invalidName _ => .invalidIdentifier
  | undefinedVariable _ => .undefinedVariable
  | inputEnded _ => .input

/-- A text in quotes, as a string. -/
def quote (t : Text) : String := Text.toString (Text.quoted t)

/-- How a jump's target is shown: in full when it fits into 63 bits and a sign. -/
def shownTarget (target : Int) : String :=
  if Numeral.bitLength target < 64 then Text.toString (Numeral.decimal target) else "value"

/-- The wording of a fault. -/
def message : Fault → String
  | unrecognizedCharacter c => "Unrecognized character " ++ quote [c] ++ " in expression"
  | longName name => "Invalid token " ++ quote name ++ ", variable names are a single letter"
  | unmatchedRightParen => "Unmatched ')' in expression"
  | unmatchedLeftParen => "Unmatched '(' in expression"
  | emptyExpression => "Empty expression"
  | malformedExpression => "Malformed expression"
  | literalTooLong length => "Integer literal of " ++ count length ++ " digits is too long"
  | missingOperand op => "Missing operand for operator " ++ quote op.sign
  | truthOperand op => "A comparison result cannot be an operand of " ++ quote op.sign
  | unknownOperator item => "Unknown operator " ++ quote item
  | unsupportedOperator spelling => "Unsupported operator " ++ quote spelling
  | strayComparison op =>
    "Comparison operator " ++ quote op.spelling ++ " is only allowed in an if condition"
  | comparisonCount found =>
    "An if condition needs exactly one comparison operator, found " ++ count found
  | conditionWithoutTruth => "An if condition must be a comparison"
  | divisionByZero => "Division by zero"
  | tooLargeToWrite bits => "Integer of " ++ count bits ++ " bits is too large to convert to text"
  | invalidName shown =>
    "Invalid variable name " ++ Text.toString shown ++
      ", variables are single letters a-z or A-Z"
  | undefinedVariable letter => "Variable " ++ Text.toString [letter] ++ " is undefined"
  | unrecognizedStatement line => "Unrecognized statement " ++ quote line
  | blankAfterIndent => "Invalid indentation, indent with spaces only"
  | unevenDepth depth unit =>
    "Invalid line depth " ++ count depth ++ ", indent with multiples of " ++
      Text.toString unit ++ " spaces"
  | jumpOutside target length =>
    "goto target line " ++ shownTarget target ++ " is outside the program (1-" ++
      count length ++ ")"
  | jumpIntoBlock line => "goto target line " ++ count line ++ " is inside an unentered block"
  | inputEnded name =>
    "Input ended before a value for variable " ++ Text.toString name ++ " was read"

end Fault

end LineScript
