import LineScript.Expr.Tree
import LineScript.Proofs.CharClass

/-!
# Texts, tokens and items

Tokens and items are read from single texts and written as such. Writing what has been read gives
the text back, whatever it is, so no two texts stand for the same token or item. Reading what has
been written gives the token or item back as long as an operand is not spelled like an operator or
a parenthesis; the operands that have a value never are, since an operator is neither a number nor a
name of one character (`Operator.ofText?_eq_none`).
-/

namespace LineScript

open Text

/-! ### Operators -/

namespace Operator

/-- The list of operators is complete. -/
theorem mem_all (op : Operator) : op ∈ all := by
  cases op with
  | negate => decide
  | binary op =>
    cases op with
    | arithmetic op => cases op <;> decide
    | comparison op => cases op <;> decide

/-- An operator that has been read from a text is spelled by it. -/
theorem spelling_of_ofText? {t : Text} {op : Operator} (h : ofText? t = some op) :
    op.spelling = t :=
  beq_iff_eq.mp (List.find?_some (p := fun op : Operator => op.spelling == t) h)

/-- Every operator is read from its spelling. -/
@[simp] theorem ofText?_spelling (op : Operator) : ofText? op.spelling = some op := by
  have hall : ∀ op ∈ all, ofText? op.spelling = some op := by decide
  exact hall op op.mem_all

/-- No two operators are spelled alike, the two minus signs included. -/
theorem spelling_injective : Function.Injective spelling := fun op op' h =>
  Option.some.inj (by rw [← ofText?_spelling, h, ofText?_spelling])

/-- An operator is not spelled like a number, like a name of one character or like a
parenthesis. -/
theorem spelling_ne (op : Operator) :
    isNumberWord op.spelling = false ∧ (∀ c, isNameStart c = true → op.spelling ≠ [c]) ∧
      op.spelling ≠ ['('] ∧ op.spelling ≠ [')'] := by
  have hall : ∀ op ∈ all, isNumberWord op.spelling = false ∧
      (op.spelling.length = 1 → op.spelling.all isNameStart = false) ∧
      op.spelling ≠ ['('] ∧ op.spelling ≠ [')'] := by decide +kernel
  obtain ⟨hnumber, hname, hparens⟩ := hall op op.mem_all
  refine ⟨hnumber, fun c hc hop => ?_, hparens⟩
  rw [hop] at hname
  simpa [hc] using hname rfl

/-- Numbers and names of one character are no operators. -/
theorem ofText?_eq_none {t : Text}
    (h : isNumberWord t = true ∨ ∃ c, t = [c] ∧ isNameStart c = true) : ofText? t = none := by
  rw [Option.eq_none_iff_forall_ne_some]
  intro op hop
  obtain rfl := spelling_of_ofText? hop
  obtain ⟨hnumber, hname, -⟩ := op.spelling_ne
  rcases h with h | ⟨c, hc, hstart⟩
  · rw [hnumber] at h
    cases h
  · exact hname c hstart hc

end Operator

/-! ### Items -/

namespace Item

@[simp] theorem text_ofText (t : Text) : (ofText t).text = t := by
  cases h : Operator.ofText? t with
  | none => rw [ofText, h, text]
  | some op => rw [ofText, h, text, Operator.spelling_of_ofText? h]

@[simp] theorem ofText_spelling (op : Operator) : ofText op.spelling = .operator op := by
  rw [ofText, Operator.ofText?_spelling]

theorem ofText_of_eq_none {t : Text} (h : Operator.ofText? t = none) : ofText t = .operand t := by
  rw [ofText, h]

end Item

/-! ### Tokens -/

namespace Token

@[simp] theorem ofText_spelling (op : Operator) : ofText op.spelling = .operator op := by
  obtain ⟨-, -, hleft, hright⟩ := op.spelling_ne
  rw [ofText, if_neg hleft, if_neg hright, Operator.ofText?_spelling]

theorem ofText_of_eq_none {t : Text} (hleft : t ≠ ['(']) (hright : t ≠ [')'])
    (h : Operator.ofText? t = none) : ofText t = .operand t := by
  rw [ofText, if_neg hleft, if_neg hright, h]

/-- A text is a parenthesis, an operator or, if it is neither, an operand. -/
theorem ofText_cases (t : Text) :
    t = ['('] ∨ t = [')'] ∨ (∃ op : Operator, t = op.spelling) ∨
      t ≠ ['('] ∧ t ≠ [')'] ∧ Operator.ofText? t = none := by
  by_cases hleft : t = ['(']
  · exact .inl hleft
  by_cases hright : t = [')']
  · exact .inr (.inl hright)
  cases h : Operator.ofText? t with
  | some op => exact .inr (.inr (.inl ⟨op, (Operator.spelling_of_ofText? h).symm⟩))
  | none => exact .inr (.inr (.inr ⟨hleft, hright, rfl⟩))

@[simp] theorem text_ofText (t : Text) : (ofText t).text = t := by
  rcases ofText_cases t with rfl | rfl | ⟨op, rfl⟩ | ⟨hleft, hright, h⟩
  · rfl
  · rfl
  · rw [ofText_spelling, text]
  · rw [ofText_of_eq_none hleft hright h, text]

/-- Different texts stand for different tokens. -/
theorem ofText_injective : Function.Injective ofText :=
  Function.LeftInverse.injective text_ofText

end Token

end LineScript
