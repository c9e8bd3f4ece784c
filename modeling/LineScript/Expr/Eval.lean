import LineScript.Expr.Postfix
import LineScript.Expr.Value
import LineScript.Store

/-!
# Evaluation

Items in postfix order are evaluated on a stack of values: an operand puts its value on top, an
operator takes its operands from the top, the right one first, and puts its result there. The
expression is well formed when exactly one value is left.

`evalArithmetic` and `evalCondition` evaluate the text of an expression in the two places a script
has for one: a number is wanted and comparisons are refused, or a truth value is wanted and there
has to be exactly one comparison.
-/

namespace LineScript

open Text

/-- Whether an operand is a number word: nonempty and made of digit-like characters. -/
def isNumberWord (t : Text) : Bool := !t.isEmpty && t.all isDigitLike

/-- The value of an operand: a number word by its digits, a word by the variable it names. -/
def evalOperand (store : Store) (t : Text) : Except Fault Int :=
  if isNumberWord t then
    match Numeral.literal? t with
    | some n => .ok n
    | none => .error (.literalTooLong t.length)
  else if t.head?.any fun c => isLetter c || c == '_' then store.lookup t
  else .error (.unknownOperator t)

/-- Takes an operand of `op` from the top of the stack. -/
def popOperand (op : Operator) : List Value → Except Fault (Int × List Value)
  | [] => .error (.missingOperand op)
  | .truth _ :: _ => .error (.truthOperand op)
  | .int n :: stack => .ok (n, stack)

/-- The stack after one more item. -/
def Item.eval (store : Store) (stack : List Value) : Item → Except Fault (List Value)
  | .operand t => do
    return .int (← evalOperand store t) :: stack
  | .operator .negate => do
    let (n, stack) ← popOperand .negate stack
    return .int (-n) :: stack
  | .operator (.binary op) => do
    let (right, stack) ← popOperand (.binary op) stack
    let (left, stack) ← popOperand (.binary op) stack
    return (← op.apply left right) :: stack

/-- The value of items in postfix order. -/
def evalPostfix (store : Store) (items : List Item) : Except Fault Value := do
  match ← items.foldlM (Item.eval store) [] with
  | [value] => return value
  | _ => .error .malformedExpression

/-- The value of an infix expression. -/
def evalInfix (store : Store) (t : Text) : Except Fault Value := do
  evalPostfix store (← infixToPostfix t)

/-- The value of an expression where comparisons are refused. -/
def evalArithmetic (store : Store) (t : Text) : Except Fault Value := do
  let tokens ← Token.tokenize t
  match tokens.findSome? Token.comparison? with
  | some op => .error (.strayComparison op)
  | none => evalPostfix store (← toPostfix tokens)

/-- The truth of an expression with exactly one comparison. -/
def evalCondition (store : Store) (t : Text) : Except Fault Bool := do
  let tokens ← Token.tokenize t
  let found := (tokens.filterMap Token.comparison?).length
  if found = 1 then
    match ← evalPostfix store (← toPostfix tokens) with
    | .truth b => return b
    | .int _ => .error .conditionWithoutTruth
  else .error (.comparisonCount found)

end LineScript
