import LineScript.Proofs.Infix
import LineScript.Proofs.Unfinished
import Mathlib.Algebra.BigOperators.Group.List.Basic

/-!
# Which expressions are accepted

Nothing in the conversion to postfix order looks at the shape of an expression, apart from its
parentheses. That leaves the count of the values at the end of the evaluation, and a count does not
see where the operators stand: `1 2 +` is accepted, and so is `() 1`. What goes wrong there is
that an operand directly follows another one.

This is the only thing that can go wrong. An item changes the height of the stack by its `weight`,
and the conversion only reorders items (`Conversion.Pushed`). As long as no operand follows another
one, what has been read weighs at most as much as the operand that should be there, one behind an
operand and nothing elsewhere; and a misplaced operator or parenthesis makes it weigh less, for
good. So an expression that weighs one in the end has been an unfinished sentence all along
(`Conversion.Sound`).
-/

namespace LineScript

/-- A computation in two parts succeeds when both do. -/
theorem exists_of_bind_eq_ok {ε α β : Type} {x : Except ε α} {f : α → Except ε β} {b : β}
    (h : x >>= f = .ok b) : ∃ a, x = .ok a ∧ f a = .ok b := by
  cases x with
  | error e => cases h
  | ok a => exact ⟨a, rfl, h⟩

/-! ### The height of the stack -/

namespace Item

/-- By how much an item makes the stack of values higher. -/
def weight : Item → Int
  | .operand _ => 1
  | .operator .negate => 0
  | .operator (.binary _) => -1

theorem length_of_popOperand {op : Operator} {stack stack' : List Value} {n : Int}
    (h : popOperand op stack = .ok (n, stack')) : stack.length = stack'.length + 1 := by
  unfold popOperand at h
  split at h <;> cases h
  rfl

theorem length_of_eval {store : Store} {stack stack' : List Value} {item : Item}
    (h : item.eval store stack = .ok stack') :
    (stack'.length : Int) = stack.length + item.weight := by
  cases item with
  | operand t =>
    obtain ⟨n, -, h⟩ := exists_of_bind_eq_ok h
    cases h
    exact Int.natCast_succ _
  | operator op =>
    cases op with
    | negate =>
      obtain ⟨⟨n, rest⟩, hpop, h⟩ := exists_of_bind_eq_ok h
      cases h
      simp [weight, length_of_popOperand hpop]
    | binary op =>
      obtain ⟨⟨right, rest⟩, hright, h⟩ := exists_of_bind_eq_ok h
      obtain ⟨⟨left, rest'⟩, hleft, h⟩ := exists_of_bind_eq_ok h
      obtain ⟨v, -, h⟩ := exists_of_bind_eq_ok h
      cases h
      simp [weight, length_of_popOperand hright, length_of_popOperand hleft]

theorem length_of_foldlM {store : Store} {items : List Item} {stack stack' : List Value}
    (h : items.foldlM (Item.eval store) stack = .ok stack') :
    (stack'.length : Int) = stack.length + (items.map weight).sum := by
  induction items generalizing stack with
  | nil =>
    cases h
    simp
  | cons item items ih =>
    rw [List.foldlM_cons] at h
    obtain ⟨stack₁, hitem, h⟩ := exists_of_bind_eq_ok h
    have hfirst := length_of_eval hitem
    have hrest := ih h
    rw [List.map_cons, List.sum_cons]
    omega

end Item

/-- What is evaluated has the weight of one value. -/
theorem weight_of_evalPostfix {store : Store} {items : List Item} {v : Value}
    (h : evalPostfix store items = .ok v) : (items.map Item.weight).sum = 1 := by
  obtain ⟨stack, hstack, h⟩ := exists_of_bind_eq_ok h
  have hlength := Item.length_of_foldlM hstack
  match stack, h with
  | [value], _ => simpa using hlength.symm

/-! ### What the conversion does with a token -/

/-- The item that waits, unless it is a parenthesis. -/
def Pending.item? : Pending → Option Item
  | .paren => none
  | .operator op => some (.operator op)

/-- The item that a token stands for, depending on whether an operand is expected. -/
def Token.item? (expectOperand : Bool) : Token → Option Item
  | .leftParen => none
  | .rightParen => none
  | .operator op =>
    if op = .binary (.arithmetic .subtract) ∧ expectOperand = true then some (.operator .negate)
    else some (.operator op)
  | .operand t => some (.operand t)

namespace Conversion

/-- The items taken in so far, written or waiting. -/
def items (c : Conversion) : List Item := c.output ++ c.stack.filterMap Pending.item?

/-- The number of parentheses that are open. -/
def opened (c : Conversion) : Nat := c.stack.count .paren

theorem release_perm (precedence : Nat) (stack : List Pending) (output : List Item) :
    ((release precedence stack output).2 ++
        (release precedence stack output).1.filterMap Pending.item?).Perm
      (output ++ stack.filterMap Pending.item?) := by
  fun_induction release precedence stack output with
  | case1 output op stack hle ih => exact ih.trans List.perm_middle.symm
  | case2 output op stack hlt => exact .refl _
  | case3 stack output hstack => exact .refl _

theorem count_release (precedence : Nat) (stack : List Pending) (output : List Item) :
    (release precedence stack output).1.count .paren = stack.count .paren := by
  fun_induction release precedence stack output with
  | case1 output op stack hle ih => simpa using ih
  | case2 output op stack hlt => rfl
  | case3 stack output hstack => rfl

theorem close_perm {stack stack' : List Pending} {output output' : List Item}
    (h : close stack output = .ok (stack', output')) :
    (output' ++ stack'.filterMap Pending.item?).Perm (output ++ stack.filterMap Pending.item?) ∧
      stack.count .paren = stack'.count .paren + 1 := by
  fun_induction close stack output with
  | case1 output => cases h
  | case2 output stack =>
    cases h
    exact ⟨.refl _, List.count_cons_self⟩
  | case3 output op stack ih =>
    obtain ⟨hperm, hcount⟩ := ih h
    exact ⟨hperm.trans List.perm_middle.symm, by simpa using hcount⟩

theorem drain_perm {stack : List Pending} {output output' : List Item}
    (h : drain stack output = .ok output') :
    output'.Perm (output ++ stack.filterMap Pending.item?) ∧ stack.count .paren = 0 := by
  fun_induction drain stack output with
  | case1 output =>
    cases h
    exact ⟨by simp, rfl⟩
  | case2 output stack => cases h
  | case3 output op stack ih =>
    obtain ⟨hperm, hcount⟩ := ih h
    exact ⟨hperm.trans List.perm_middle.symm, by simpa using hcount⟩

/-- What comes of taking in a token: its item, if it stands for one, is added, a parenthesis is
opened or closed, and an operand is expected unless the token ends one. -/
structure Pushed (c : Conversion) (token : Token) (c' : Conversion) : Prop where
  items : c'.items.Perm ((token.item? c.expectOperand).toList ++ c.items)
  opened : c'.opened + (if token = .rightParen then 1 else 0) =
    c.opened + if token = .leftParen then 1 else 0
  expectOperand : c'.expectOperand = !token.endsOperand

theorem pushed {c c' : Conversion} {token : Token} (h : c.push token = .ok c') :
    c.Pushed token c' := by
  cases token with
  | leftParen =>
    cases h
    exact ⟨.refl _, by simp [opened], rfl⟩
  | rightParen =>
    obtain ⟨⟨stack, output⟩, hclose, h⟩ := exists_of_bind_eq_ok h
    cases h
    obtain ⟨hperm, hcount⟩ := close_perm hclose
    exact ⟨hperm, hcount.symm, rfl⟩
  | operator op =>
    rw [push] at h
    split at h
    · rename_i hsign
      cases h
      refine ⟨?_, by simp [opened], hsign.2⟩
      rw [Token.item?, if_pos hsign]
      exact List.perm_middle
    · rename_i hsign
      cases h
      refine ⟨?_, ?_, rfl⟩
      · rw [Token.item?, if_neg hsign]
        exact List.perm_middle.trans ((release_perm op.precedence c.stack c.output).cons _)
      · simpa [opened] using count_release op.precedence c.stack c.output
  | operand t =>
    cases h
    exact ⟨.refl _, rfl, rfl⟩

theorem perm_of_finish {c : Conversion} {items : List Item} (h : c.finish = .ok items) :
    items.Perm c.items ∧ c.opened = 0 := by
  obtain ⟨output, hdrain, h⟩ := exists_of_bind_eq_ok h
  obtain ⟨hperm, hcount⟩ := drain_perm hdrain
  cases output with
  | nil => cases h
  | cons item output =>
    cases h
    exact ⟨(List.reverse_perm _).trans hperm, hcount⟩

/-! ### The invariant -/

/-- The weight of the items taken in so far. -/
def weight (c : Conversion) : Int := (c.items.map Item.weight).sum

theorem Pushed.weight {c c' : Conversion} {token : Token} (h : c.Pushed token c') :
    c'.weight = ((token.item? c.expectOperand).map Item.weight).getD 0 + c.weight := by
  rw [Conversion.weight, (h.items.map _).sum_eq]
  cases token.item? c.expectOperand <;> simp [Conversion.weight]

/-- The tokens taken in so far weigh no more than they should, and if they weigh as much they are an
unfinished sentence. -/
inductive Sound (tokens : List Token) (c : Conversion) : Prop where
  | waiting : c.expectOperand = true → c.weight ≤ 0 →
      (c.weight = 0 → Waiting c.opened tokens) → Sound tokens c
  | holding : c.expectOperand = false → c.weight ≤ 1 →
      (c.weight = 1 → Holding c.opened tokens) → Sound tokens c

theorem sound_nil : Sound [] {} :=
  .waiting rfl (Int.le_refl 0) fun _ => waiting_nil

/-- The invariant is kept by every token that does not start an operand behind another one. -/
theorem Sound.push {tokens : List Token} {token : Token} {c c' : Conversion} (h : Sound tokens c)
    (hpush : c.push token = .ok c') (hlexeme : token.IsLexeme)
    (hapart : c.expectOperand = false → token.followsOperand = true) :
    Sound (tokens ++ [token]) c' := by
  have hpushed := pushed hpush
  have hweight := hpushed.weight
  have hopened := hpushed.opened
  have hexpect := hpushed.expectOperand
  cases token with
  | leftParen =>
    replace hweight : c'.weight = c.weight := hweight.trans (Int.zero_add _)
    replace hopened : c'.opened = c.opened + 1 := hopened
    cases h with
    | waiting hx hle hwaiting =>
      refine .waiting hexpect (by omega) fun hzero => ?_
      rw [hopened]
      exact (hwaiting (by omega)).leftParen
    | holding hx _ _ => cases hapart hx
  | rightParen =>
    replace hweight : c'.weight = c.weight := hweight.trans (Int.zero_add _)
    replace hopened : c.opened = c'.opened + 1 := hopened.symm
    cases h with
    -- The operand that should end here is missing, and nothing can make up for it.
    | waiting hx hle _ => exact .holding hexpect (by omega) fun hone => by omega
    | holding hx hle hholding =>
      refine .holding hexpect (by omega) fun hone => ?_
      rw [hopened] at hholding
      exact (hholding (by omega)).rightParen
  | operator op =>
    replace hopened : c'.opened = c.opened := hopened
    cases op with
    | negate => exact absurd rfl hlexeme
    | binary op =>
      cases h with
      | waiting hx hle hwaiting =>
        by_cases hop : op = .arithmetic .subtract
        · subst hop
          rw [Token.item?, if_pos ⟨rfl, hx⟩] at hweight
          replace hweight : c'.weight = c.weight := hweight.trans (Int.zero_add _)
          refine .waiting hexpect (by omega) fun hzero => ?_
          rw [hopened]
          exact (hwaiting (by omega)).minus
        · -- The left operand is missing, and nothing can make up for it.
          rw [Token.item?, if_neg (by simp [hop])] at hweight
          replace hweight : c'.weight = -1 + c.weight := hweight
          exact .waiting hexpect (by omega) fun hzero => by omega
      | holding hx hle hholding =>
        rw [Token.item?, if_neg (by simp [hx])] at hweight
        replace hweight : c'.weight = -1 + c.weight := hweight
        refine .waiting hexpect (by omega) fun hzero => ?_
        rw [hopened]
        exact (hholding (by omega)).binary op
  | operand t =>
    replace hweight : c'.weight = 1 + c.weight := hweight
    replace hopened : c'.opened = c.opened := hopened
    cases h with
    | waiting hx hle hwaiting =>
      refine .holding hexpect (by omega) fun hone => ?_
      rw [hopened]
      exact (hwaiting (by omega)).operand hlexeme
    | holding hx _ _ => cases hapart hx

end Conversion

/-! ### Operands that are kept apart -/

/-- A token does not start an operand directly behind one that the other token ends. -/
def Token.Apart (a b : Token) : Prop := a.endsOperand = true → b.followsOperand = true

instance : DecidableRel Token.Apart := fun a b =>
  inferInstanceAs (Decidable (a.endsOperand = true → b.followsOperand = true))

/-- The operands of a sentence are kept apart. -/
theorem Sentence.isChain_apart {level : Level} {tokens : List Token} {e : Expr}
    (h : Sentence level tokens e) : tokens.IsChain Token.Apart := by
  refine h.isChain_joins.imp fun a b hjoins hends => ?_
  rwa [Token.Joins, if_pos hends] at hjoins

/-- Tokens that keep operands apart keep the invariant. -/
theorem Conversion.Sound.foldlM {taken tokens : List Token} {c c' : Conversion}
    (h : Sound taken c) (hrun : tokens.foldlM Conversion.push c = .ok c')
    (hlexeme : ∀ token ∈ tokens, token.IsLexeme) (hchain : tokens.IsChain Token.Apart)
    (hfirst : c.expectOperand = false → ∀ token ∈ tokens.head?, token.followsOperand = true) :
    Sound (taken ++ tokens) c' := by
  induction tokens generalizing taken c with
  | nil =>
    cases hrun
    rwa [List.append_nil]
  | cons token tokens ih =>
    rw [List.foldlM_cons] at hrun
    obtain ⟨c₁, hpush, hrun⟩ := exists_of_bind_eq_ok hrun
    obtain ⟨htoken, hlexeme⟩ := List.forall_mem_cons.mp hlexeme
    have hsound := h.push hpush htoken fun hx => hfirst hx token rfl
    rw [← List.singleton_append, ← List.append_assoc]
    refine ih hsound hrun hlexeme hchain.tail fun hx next hnext => ?_
    have hends : token.endsOperand = true := by simpa [(pushed hpush).expectOperand] using hx
    cases tokens with
    | nil => cases hnext
    | cons next' tokens =>
      obtain rfl := Option.some.inj hnext
      exact hchain.rel hends

/-- Tokens that keep operands apart and come to one value are a sentence. -/
theorem exists_sentence_of_toPostfix {tokens : List Token} {items : List Item}
    (h : toPostfix tokens = .ok items) (hweight : (items.map Item.weight).sum = 1)
    (hlexeme : ∀ token ∈ tokens, token.IsLexeme) (hchain : tokens.IsChain Token.Apart) :
    ∃ e, Sentence .comparison tokens e := by
  obtain ⟨c, hrun, hfinish⟩ := exists_of_bind_eq_ok h
  obtain ⟨hperm, hopened⟩ := Conversion.perm_of_finish hfinish
  have hone : c.weight = 1 := (hperm.map Item.weight).sum_eq.symm.trans hweight
  cases Conversion.sound_nil.foldlM hrun hlexeme hchain nofun with
  | waiting _ hle _ => omega
  | holding _ _ hholding =>
    have hsentence := hholding hone
    rwa [hopened] at hsentence

/-- The value of a text whose tokens are a sentence is the meaning of its tree. -/
theorem evalInfix_eq_meaning {store : Store} {t : Text} {tokens : List Token} {e : Expr}
    (ht : Token.tokenize t = .ok tokens) (he : Sentence .comparison tokens e) :
    evalInfix store t = e.meaning store := by
  rw [evalInfix, infixToPostfix, ht]
  show (toPostfix tokens >>= evalPostfix store) = _
  rw [toPostfix_of_sentence he, ← he.eval_eq_meaning store]
  exact evalPostfix_listing store e

/-- **An accepted expression is a sentence unless it has an operand directly behind another one.**
A text that has a value is cut into tokens, and these are a sentence, with this value for its
meaning, exactly when no number, name or left parenthesis directly follows a number, a name or a
right parenthesis. -/
theorem evalInfix_accepts {store : Store} {t : Text} {v : Value} (h : evalInfix store t = .ok v) :
    ∃ tokens, Token.tokenize t = .ok tokens ∧
      ((∃ e, Sentence .comparison tokens e ∧ e.meaning store = .ok v) ↔
        tokens.IsChain Token.Apart) := by
  obtain ⟨items, hitems, hvalue⟩ := exists_of_bind_eq_ok h
  obtain ⟨tokens, ht, hpostfix⟩ := exists_of_bind_eq_ok hitems
  refine ⟨tokens, ht, fun ⟨e, he, _⟩ => he.isChain_apart, fun hchain => ?_⟩
  obtain ⟨e, he⟩ := exists_sentence_of_toPostfix hpostfix (weight_of_evalPostfix hvalue)
    (Token.isLexeme_of_tokenize ht) hchain
  exact ⟨e, he, (evalInfix_eq_meaning ht he).symm.trans h⟩

/-- The text `(a-1)*-2` has a value, and its tokens keep the operands apart. -/
theorem evalInfix_accepts_product :
    evalInfix (Store.empty.set 0 5) ['(', 'a', '-', '1', ')', '*', '-', '2'] = .ok (.int (-8)) ∧
      ∃ tokens e, Token.tokenize ['(', 'a', '-', '1', ')', '*', '-', '2'] = .ok tokens ∧
        Sentence .comparison tokens e ∧ e.meaning (Store.empty.set 0 5) = .ok (.int (-8)) := by
  have hvalue : evalInfix (Store.empty.set 0 5) ['(', 'a', '-', '1', ')', '*', '-', '2'] =
      .ok (.int (-8)) := by decide +kernel
  have hread : Token.tokenize ['(', 'a', '-', '1', ')', '*', '-', '2'] =
      .ok (["(", "a", "-", "1", ")", "*", "-", "2"].map fun s =>
        Token.ofText (Text.ofString s)) := by decide +kernel
  obtain ⟨tokens, htokens, hiff⟩ := evalInfix_accepts hvalue
  have happart : tokens.IsChain Token.Apart := by
    obtain rfl := Except.ok.inj (hread.symm.trans htokens)
    decide +kernel
  obtain ⟨e, he, hmeaning⟩ := hiff.mpr happart
  exact ⟨hvalue, tokens, e, htokens, he, hmeaning⟩

/-- The text `1 2 +` has a value too, although it is no sentence. -/
theorem evalInfix_adjacent_operands :
    evalInfix .empty ['1', ' ', '2', ' ', '+'] = .ok (.int 3) ∧
      ∃ tokens, Token.tokenize ['1', ' ', '2', ' ', '+'] = .ok tokens ∧
        ∀ e, ¬Sentence .comparison tokens e := by
  refine ⟨by decide +kernel, ["1", "2", "+"].map fun s => Token.ofText (Text.ofString s),
    by decide +kernel, fun e he => ?_⟩
  exact absurd he.isChain_apart (by decide +kernel)

end LineScript
