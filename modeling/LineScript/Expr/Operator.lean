import LineScript.Text.Range

/-!
# Operators

Expressions have four arithmetic operators, five comparisons and negation. Each operator has a
spelling by which it is recognised, and a precedence: negation binds tightest, then `*` and `/`,
then `+` and `-`, then the comparisons. Negation shares the sign `-` with subtraction; in postfix
order it is spelled `neg`, so that the two stay apart.
-/

namespace LineScript

/-- The four arithmetic operators. -/
inductive Arithmetic where
  | add | subtract | multiply | divide
  deriving DecidableEq

/-- The five comparisons. -/
inductive Comparison where
  | greater | less | equal | greaterEqual | lessEqual
  deriving DecidableEq

/-- An operator with a left and a right operand. -/
inductive BinaryOp where
  | arithmetic (op : Arithmetic)
  | comparison (op : Comparison)
  deriving DecidableEq

/-- An operator of the language. -/
inductive Operator where
  | negate
  | binary (op : BinaryOp)
  deriving DecidableEq

namespace Arithmetic

/-- The spelling of an arithmetic operator. -/
def spelling : Arithmetic → Text
  | add => ['+']
  | subtract => ['-']
  | multiply => ['*']
  | divide => ['/']

/-- Every arithmetic operator. -/
def all : List Arithmetic := [add, subtract, multiply, divide]

/-- How tightly an arithmetic operator binds. -/
def precedence : Arithmetic → Nat
  | add | subtract => 1
  | multiply | divide => 2

end Arithmetic

namespace Comparison

/-- The spelling of a comparison. -/
def spelling : Comparison → Text
  | greater => ['>']
  | less => ['<']
  | equal => ['=', '=']
  | greaterEqual => ['>', '=']
  | lessEqual => ['<', '=']

/-- Every comparison. -/
def all : List Comparison := [greater, less, equal, greaterEqual, lessEqual]

/-- The truth of a comparison between two integers. -/
def holds : Comparison → Int → Int → Bool
  | greater, a, b => b < a
  | less, a, b => a < b
  | equal, a, b => a = b
  | greaterEqual, a, b => b ≤ a
  | lessEqual, a, b => a ≤ b

end Comparison

namespace BinaryOp

/-- The spelling of a binary operator. -/
def spelling : BinaryOp → Text
  | arithmetic op => op.spelling
  | comparison op => op.spelling

/-- Every binary operator. -/
def all : List BinaryOp := Arithmetic.all.map arithmetic ++ Comparison.all.map comparison

/-- How tightly a binary operator binds. -/
def precedence : BinaryOp → Nat
  | arithmetic op => op.precedence
  | comparison _ => 0

/-- The binary operator with a given spelling. -/
def ofText? (t : Text) : Option BinaryOp := all.find? fun op => op.spelling == t

end BinaryOp

namespace Operator

/-- The spelling of an operator in postfix order. -/
def spelling : Operator → Text
  | negate => ['n', 'e', 'g']
  | binary op => op.spelling

/-- The sign by which an operator is written in an expression. -/
def sign : Operator → Text
  | negate => ['-']
  | binary op => op.spelling

/-- Every operator. -/
def all : List Operator := negate :: BinaryOp.all.map binary

/-- How tightly an operator binds. -/
def precedence : Operator → Nat
  | negate => 3
  | binary op => op.precedence

/-- The operator with a given spelling. -/
def ofText? (t : Text) : Option Operator := all.find? fun op => op.spelling == t

end Operator

end LineScript
