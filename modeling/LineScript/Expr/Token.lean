import LineScript.Expr.Operator

/-!
# Tokens and postfix items

An expression in infix order is a list of tokens: parentheses, operators and operands. In postfix
order there are no parentheses left, only items. Both are read from and written as single texts:
a text that is neither a parenthesis nor the spelling of an operator is an operand, whatever it
looks like, and what an operand means is decided when it is evaluated.
-/

namespace LineScript

/-- A token of an infix expression. -/
inductive Token where
  | leftParen
  | rightParen
  | operator (op : Operator)
  | operand (text : Text)
  deriving DecidableEq

/-- An item of an expression in postfix order. -/
inductive Item where
  | operator (op : Operator)
  | operand (text : Text)
  deriving DecidableEq

namespace Token

/-- The token a text stands for. -/
def ofText (t : Text) : Token :=
  if t = ['('] then leftParen
  else if t = [')'] then rightParen
  else
    match Operator.ofText? t with
    | some op => operator op
    | none => operand t

/-- The text of a token. -/
def text : Token → Text
  | leftParen => ['(']
  | rightParen => [')']
  | operator op => op.spelling
  | operand t => t

/-- The comparison a token is, if it is one. -/
def comparison? : Token → Option Comparison
  | operator (.binary (.comparison op)) => some op
  | _ => none

end Token

namespace Item

/-- The item a text stands for. -/
def ofText (t : Text) : Item :=
  match Operator.ofText? t with
  | some op => operator op
  | none => operand t

/-- The text of an item. -/
def text : Item → Text
  | operator op => op.spelling
  | operand t => t

end Item

end LineScript
