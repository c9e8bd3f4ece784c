import LineScript.Expr.Eval

/-!
# Expression trees

An expression as a tree: its leaves are operands and its nodes operators. `Expr.listing` writes a
tree in postfix order and `Expr.eval` evaluates it directly, the left part before the right part and
the operator last.

`Sentence` is the grammar of infix expressions, one level for each precedence: a list of tokens is a
sentence at a level when it can be read as a given tree there. Every binary operator groups to the
left.

`evalPostfix_listing` says that evaluating the listing of a tree on a stack is evaluating the tree,
with the same fault where there is one.
-/

namespace LineScript

/-- An expression as a tree. -/
inductive Expr where
  | operand (text : Text)
  | negate (e : Expr)
  | binary (op : BinaryOp) (left right : Expr)
  deriving DecidableEq

/-- The integer a value contributes as an operand of `op`. -/
def Value.asOperand (op : Operator) : Value → Except Fault Int
  | int n => .ok n
  | truth _ => .error (.truthOperand op)

namespace Expr

/-- The items of a tree in postfix order. -/
def listing : Expr → List Item
  | operand t => [.operand t]
  | negate e => e.listing ++ [.operator .negate]
  | binary op left right => left.listing ++ right.listing ++ [.operator (.binary op)]

/-- The value of a tree. -/
def eval (store : Store) : Expr → Except Fault Value
  | operand t => return .int (← evalOperand store t)
  | negate e => do
    let n ← (← e.eval store).asOperand .negate
    return .int (-n)
  | binary op left right => do
    let a ← left.eval store
    let b ← right.eval store
    let n ← b.asOperand (.binary op)
    let m ← a.asOperand (.binary op)
    op.apply m n

end Expr

/-! ### The infix grammar -/

/-- The levels of the grammar, from the loosest to the tightest. -/
inductive Level where
  | comparison | sum | product | signed | primary
  deriving DecidableEq

namespace Level

/-- The level of an arithmetic operator. -/
def ofArithmetic : Arithmetic → Level
  | .add | .subtract => sum
  | .multiply | .divide => product

/-- The level of a binary operator. -/
def ofBinary : BinaryOp → Level
  | .arithmetic op => ofArithmetic op
  | .comparison _ => comparison

/-- The next tighter level; nothing is tighter than a primary. -/
def tighter : Level → Level
  | comparison => sum
  | sum => product
  | product => signed
  | signed => primary
  | primary => primary

end Level

/-- Whether a text is an operand of the grammar: ASCII digits, or a single character that can start
a name. -/
def isOperandText (t : Text) : Prop :=
  (t ≠ [] ∧ ∀ c ∈ t, Text.isPlainDigit c = true) ∨ ∃ c, t = [c] ∧ Text.isNameStart c = true

/-- A list of tokens can be read as a tree at a level of the grammar. -/
inductive Sentence : Level → List Token → Expr → Prop where
  /-- What can be read at the next tighter level. -/
  | tighter {level : Level} {tokens : List Token} {e : Expr} :
      Sentence level.tighter tokens e → Sentence level tokens e
  /-- A binary operator, with an operand of its own level to the left and a tighter one to the
  right. -/
  | binary {op : BinaryOp} {ls rs : List Token} {l r : Expr} :
      Sentence (Level.ofBinary op) ls l → Sentence (Level.ofBinary op).tighter rs r →
      Sentence (Level.ofBinary op) (ls ++ .operator (.binary op) :: rs) (.binary op l r)
  /-- A minus sign in front of an operand that may have another. -/
  | negate {tokens : List Token} {e : Expr} :
      Sentence .signed tokens e →
      Sentence .signed (.operator (.binary (.arithmetic .subtract)) :: tokens) (.negate e)
  /-- A number or a name. -/
  | operand {t : Text} : isOperandText t → Sentence .primary [.operand t] (.operand t)
  /-- A comparison in parentheses. -/
  | parens {tokens : List Token} {e : Expr} :
      Sentence .comparison tokens e →
      Sentence .primary (.leftParen :: tokens ++ [.rightParen]) e

/-! ### Evaluation of a listing -/

theorem popOperand_cons (op : Operator) (v : Value) (stack : List Value) :
    popOperand op (v :: stack) = (v.asOperand op).map fun n => (n, stack) := by
  cases v <;> rfl

/-- Items that start with the listing of a tree put its value on the stack and go on. -/
theorem foldlM_listing_append (store : Store) (e : Expr) (items : List Item)
    (stack : List Value) :
    (e.listing ++ items).foldlM (Item.eval store) stack =
      (e.eval store).bind fun v => items.foldlM (Item.eval store) (v :: stack) := by
  induction e generalizing items stack with
  | operand t =>
    simp only [Expr.listing, List.singleton_append, List.foldlM_cons, Item.eval, Expr.eval]
    cases evalOperand store t <;> rfl
  | negate e ih =>
    simp only [Expr.listing, List.append_assoc, List.singleton_append, ih, Expr.eval,
      List.foldlM_cons, Item.eval, popOperand_cons]
    cases e.eval store with
    | error f => rfl
    | ok v => cases v <;> rfl
  | binary op left right ihl ihr =>
    simp only [Expr.listing, List.append_assoc, List.singleton_append, ihl, ihr, Expr.eval,
      List.foldlM_cons, Item.eval, popOperand_cons]
    cases left.eval store with
    | error f => rfl
    | ok a =>
      cases right.eval store with
      | error f => rfl
      | ok b =>
        cases b with
        | truth _ => rfl
        | int n =>
          simp only [Value.asOperand, Except.map, bind, Except.bind, popOperand_cons]
          cases a with
          | truth _ => rfl
          | int m =>
            dsimp only
            cases op.apply m n <;> rfl

/-- Evaluating the listing of a tree is evaluating the tree. -/
theorem evalPostfix_listing (store : Store) (e : Expr) :
    evalPostfix store e.listing = e.eval store := by
  have h := foldlM_listing_append store e [] []
  rw [List.append_nil] at h
  rw [evalPostfix, h]
  cases e.eval store <;> rfl

end LineScript
