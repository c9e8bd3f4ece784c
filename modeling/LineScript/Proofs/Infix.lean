import LineScript.Proofs.Conversion
import LineScript.Proofs.Lexing
import LineScript.Proofs.Operand

/-!
# Infix expressions mean their trees

An expression is read in three passes: the text is cut into tokens, the tokens are put into postfix
order, and the items are evaluated on a stack. None of the passes knows about trees. Here they are
compared, together, with the grammar: a text that writes a sentence, with or without blanks between
the tokens, comes out as the listing of the tree that the sentence stands for, and evaluates to the
meaning of that tree, `Expr.meaning`, which looks at the left part, then at the right part, then at
what the operator stands for, and stops at the first fault.
-/

namespace LineScript

namespace Expr

/-- The value of a tree, or the first fault met from left to right. -/
def meaning (store : Store) : Expr → Except Fault Value
  | operand t => (operandMeaning store t).map .int
  | negate e => do
    match ← e.meaning store with
    | .int n => .ok (.int (-n))
    | .truth _ => .error (.truthOperand .negate)
  | binary op left right => do
    let a ← left.meaning store
    let b ← right.meaning store
    match a, b with
    | .int m, .int n => op.meaning m n
    | _, _ => .error (.truthOperand (.binary op))

/-- A minus sign adds nothing to the difference between a tree's evaluation and its meaning. -/
theorem eval_negate {store : Store} {e : Expr} (h : e.eval store = e.meaning store) :
    (negate e).eval store = (negate e).meaning store := by
  rw [eval, meaning, h]
  cases e.meaning store with
  | error f => rfl
  | ok v => cases v <;> rfl

/-- A binary operator is applied to the values of its parts as its meaning demands. -/
theorem eval_binary {store : Store} {l r : Expr} (op : BinaryOp)
    (hl : l.eval store = l.meaning store) (hr : r.eval store = r.meaning store) :
    (binary op l r).eval store = (binary op l r).meaning store := by
  rw [eval, meaning, hl, hr]
  cases l.meaning store with
  | error f => rfl
  | ok a =>
    cases r.meaning store with
    | error f => rfl
    | ok b =>
      cases a with
      | truth => cases b <;> rfl
      | int m =>
        cases b with
        | truth => rfl
        | int n => exact op.apply_eq_meaning m n

end Expr

/-- The tree of a sentence is evaluated to its meaning. -/
theorem Sentence.eval_eq_meaning {level : Level} {tokens : List Token} {e : Expr}
    (h : Sentence level tokens e) (store : Store) : e.eval store = e.meaning store := by
  induction h with
  | tighter _ ih => exact ih
  | @binary op _ _ _ _ _ _ ihl ihr => exact Expr.eval_binary op ihl ihr
  | negate _ ih => exact Expr.eval_negate ih
  | operand ht =>
    rw [Expr.eval, Expr.meaning, evalOperand_eq_operandMeaning ht]
    rfl
  | parens _ ih => exact ih

/-- **Infix expressions mean their trees**: however a sentence is written, it is converted to the
listing of its tree, and evaluating that, or the text itself, gives the meaning of the tree. -/
theorem evalInfix_of_sentence {tokens : List Token} {e : Expr} {t : Text}
    (h : Sentence .comparison tokens e) (hw : Token.Writes tokens t) (store : Store) :
    infixToPostfix t = .ok e.listing ∧ evalPostfix store e.listing = e.meaning store ∧
      evalInfix store t = e.meaning store := by
  have hitems : infixToPostfix t = .ok e.listing := by
    rw [infixToPostfix, tokenize_of_sentence h hw]
    exact toPostfix_of_sentence h
  have heval : evalPostfix store e.listing = e.meaning store := by
    rw [evalPostfix_listing, h.eval_eq_meaning]
  refine ⟨hitems, heval, ?_⟩
  rw [evalInfix, hitems]
  exact heval

/-- The sentence `-a*(2--_)>=b`, with a blank in front and one inside: the low line is no variable,
which shows before `b` is looked at. -/
theorem evalInfix_of_sentence_minus_signs :
    infixToPostfix [' ', '-', 'a', '*', '(', '2', '-', ' ', '-', '_', ')', '>', '=', 'b'] =
        .ok (["a", "neg", "2", "_", "neg", "-", "*", "b", ">="].map fun s =>
          Item.ofText (Text.ofString s)) ∧
      evalInfix (Store.empty.set 0 5)
          [' ', '-', 'a', '*', '(', '2', '-', ' ', '-', '_', ')', '>', '=', 'b'] =
        .error (.invalidName (Text.quoted ['_'])) := by
  have operand (c : Char) (hc : isOperandText [c]) :
      Sentence .signed [.operand [c]] (.operand [c]) := .tighter (.operand hc)
  have digit (c : Char) (hc : Text.isPlainDigit c = true) : isOperandText [c] :=
    .inl ⟨List.cons_ne_nil c [], List.forall_mem_singleton.mpr hc⟩
  have name (c : Char) (hc : Text.isNameStart c = true) : isOperandText [c] := .inr ⟨c, rfl, hc⟩
  have difference : Sentence .sum _ _ := @Sentence.binary (.arithmetic .subtract) _ _ _ _
    (.tighter (.tighter (operand '2' (digit '2' rfl))))
    (.tighter (.negate (operand '_' (name '_' rfl))))
  have product : Sentence .product _ _ := @Sentence.binary (.arithmetic .multiply) _ _ _ _
    (.tighter (.negate (operand 'a' (name 'a' rfl))))
    (.tighter (.parens (.tighter difference)))
  have sentence : Sentence .comparison _ _ := @Sentence.binary (.comparison .greaterEqual) _ _ _ _
    (.tighter (.tighter product)) (.tighter (.tighter (operand 'b' (name 'b' rfl))))
  obtain ⟨hitems, -, heval⟩ := evalInfix_of_sentence sentence
    (.cons (w := [' ']) rfl (.cons (w := []) rfl (.cons (w := []) rfl (.cons (w := []) rfl
      (.cons (w := []) rfl (.cons (w := []) rfl (.cons (w := [' ']) rfl (.cons (w := []) rfl
      (.cons (w := []) rfl (.cons (w := []) rfl (.cons (w := []) rfl (.nil (w := []) rfl))))))))))))
    (Store.empty.set 0 5)
  exact ⟨hitems.trans (by decide +kernel), heval.trans (by decide +kernel)⟩

end LineScript
