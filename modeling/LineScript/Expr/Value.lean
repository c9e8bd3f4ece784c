import LineScript.Fault

/-!
# Values and arithmetic

Evaluating an expression gives an integer or, when it is a comparison, a truth value. Integers are
unbounded; division rounds toward zero and is undefined for a zero divisor.
-/

namespace LineScript

/-- The value of an expression. -/
inductive Value where
  | int (n : Int)
  | truth (b : Bool)
  deriving DecidableEq

namespace Value

/-- A value as an integer; a truth value counts one when it holds and zero when it does not. -/
def toInt : Value → Int
  | int n => n
  | truth b => if b then 1 else 0

end Value

/-- The quotient of two integers, rounded toward zero: the quotient of their absolute values, with
the sign that the signs of the two make. -/
def divide (left right : Int) : Except Fault Int :=
  if right = 0 then .error .divisionByZero
  else
    let quotient : Int := (left.natAbs / right.natAbs : Nat)
    .ok (if left < 0 ↔ right < 0 then quotient else -quotient)

namespace Arithmetic

/-- The result of an arithmetic operator. -/
def apply : Arithmetic → Int → Int → Except Fault Int
  | add, left, right => .ok (left + right)
  | subtract, left, right => .ok (left - right)
  | multiply, left, right => .ok (left * right)
  | divide, left, right => LineScript.divide left right

end Arithmetic

namespace BinaryOp

/-- The result of a binary operator. -/
def apply : BinaryOp → Int → Int → Except Fault Value
  | arithmetic op, left, right => (op.apply left right).map .int
  | comparison op, left, right => .ok (.truth (op.holds left right))

/-- The result of the binary operator with a given spelling. -/
def applySpelling (spelling : Text) (left right : Int) : Except Fault Value :=
  match ofText? spelling with
  | some op => op.apply left right
  | none => .error (.unsupportedOperator spelling)

end BinaryOp

/-- The decimal text of an integer, as the language writes it. -/
def formatInt (v : Int) : Except Fault Text :=
  match Numeral.decimal? v with
  | some t => .ok t
  | none => .error (.tooLargeToWrite (Numeral.bitLength v))

end LineScript
