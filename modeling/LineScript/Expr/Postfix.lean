import LineScript.Expr.Lexer

/-!
# From infix to postfix order

Operands go straight to the output; operators wait on a stack until an operator that binds no
tighter, a closing parenthesis or the end of the expression lets them through. A `-` where an
operand is expected, which is at the start, after a left parenthesis and after an operator, is a
negation: it has nothing to its left, so it waits on top of the stack without letting anything
through.

The conversion checks parentheses and that something is left to evaluate; it does not check that
operands and operators alternate.
-/

namespace LineScript

/-- What waits on the stack of the conversion. -/
inductive Pending where
  | paren
  | operator (op : Operator)
  deriving DecidableEq

/-- The conversion between two tokens. -/
structure Conversion where
  /-- The items written so far, the last one first. -/
  output : List Item := []
  /-- The operators and parentheses waiting, the innermost first. -/
  stack : List Pending := []
  /-- Whether the next token is expected to start an operand. -/
  expectOperand : Bool := true
  deriving DecidableEq

namespace Conversion

/-- Lets the waiting operators through that bind at least as tightly as `precedence`. -/
def release (precedence : Nat) : List Pending → List Item → List Pending × List Item
  | .operator op :: stack, output =>
    if precedence ≤ op.precedence then release precedence stack (.operator op :: output)
    else (.operator op :: stack, output)
  | stack, output => (stack, output)

/-- Lets all operators through up to the innermost left parenthesis, which is removed. -/
def close : List Pending → List Item → Except Fault (List Pending × List Item)
  | [], _ => .error .unmatchedRightParen
  | .paren :: stack, output => .ok (stack, output)
  | .operator op :: stack, output => close stack (.operator op :: output)

/-- Lets all waiting operators through at the end of the expression. -/
def drain : List Pending → List Item → Except Fault (List Item)
  | [], output => .ok output
  | .paren :: _, _ => .error .unmatchedLeftParen
  | .operator op :: stack, output => drain stack (.operator op :: output)

/-- The conversion after one more token. -/
def push (c : Conversion) : Token → Except Fault Conversion
  | .leftParen => .ok { c with stack := .paren :: c.stack, expectOperand := true }
  | .rightParen => do
    let (stack, output) ← close c.stack c.output
    return { output, stack, expectOperand := false }
  | .operator op =>
    if op = .binary (.arithmetic .subtract) ∧ c.expectOperand = true then
      .ok { c with stack := .operator .negate :: c.stack }
    else
      let (stack, output) := release op.precedence c.stack c.output
      .ok { output, stack := .operator op :: stack, expectOperand := true }
  | .operand t => .ok { c with output := .operand t :: c.output, expectOperand := false }

/-- The items in postfix order once all tokens have been taken. -/
def finish (c : Conversion) : Except Fault (List Item) := do
  match ← drain c.stack c.output with
  | [] => .error .emptyExpression
  | output => return output.reverse

end Conversion

/-- The items of an infix expression in postfix order. -/
def toPostfix (tokens : List Token) : Except Fault (List Item) := do
  (← tokens.foldlM Conversion.push {}).finish

/-- The items of an infix expression, given as text, in postfix order. -/
def infixToPostfix (t : Text) : Except Fault (List Item) := do
  toPostfix (← Token.tokenize t)

end LineScript
