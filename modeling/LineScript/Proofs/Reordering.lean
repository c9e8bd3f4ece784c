import LineScript.Proofs.Acceptance
import LineScript.Proofs.Spelling
import Mathlib.Data.List.Count

/-!
# What the conversion does to any list

The conversion to postfix order is run on any list of texts, whether or not it is an expression.
Parentheses alone decide how it ends: it fails at the first right parenthesis that has no left one
in front of it, and if there is none, it fails at the end when a left one is still open or when
there is nothing but parentheses. That is `Conversion.exists_foldlM`, `Conversion.foldlM_overclosed`
and the lemmas on `Conversion.finish`; all of them only look at the number of open parentheses.

When it succeeds, the list has been reordered. Nothing is lost or added except the parentheses, and
nothing is changed but the minus signs that stand where an operand is expected, at the start and
behind a left parenthesis or an operator (`spelledOut`). Only operators ever wait, so what is no
operator comes out in the order in which it went in.
-/

namespace LineScript

/-! ### Parentheses -/

namespace Conversion

/-- A right parenthesis is matched as long as a left one waits. -/
theorem exists_close {stack : List Pending} (h : 0 < stack.count .paren) (output : List Item) :
    ∃ result, close stack output = .ok result := by
  fun_induction close stack output with
  | case1 output => cases h
  | case2 output stack => exact ⟨_, rfl⟩
  | case3 output op stack ih => exact ih (by simpa using h)

/-- A right parenthesis for which no left one waits is refused. -/
theorem close_of_count_eq_zero {stack : List Pending} (h : stack.count .paren = 0)
    (output : List Item) : close stack output = .error .unmatchedRightParen := by
  fun_induction close stack output with
  | case1 output => rfl
  | case2 output stack => simp at h
  | case3 output op stack ih => exact ih (by simpa using h)

/-- Operators that wait with no parenthesis among them are written out. -/
theorem exists_drain {stack : List Pending} (h : stack.count .paren = 0) (output : List Item) :
    ∃ output', drain stack output = .ok output' := by
  fun_induction drain stack output with
  | case1 output => exact ⟨_, rfl⟩
  | case2 output stack => simp at h
  | case3 output op stack ih => exact ih (by simpa using h)

/-- A left parenthesis that still waits at the end is refused. -/
theorem drain_of_count_pos {stack : List Pending} (h : 0 < stack.count .paren)
    (output : List Item) : drain stack output = .error .unmatchedLeftParen := by
  fun_induction drain stack output with
  | case1 output => cases h
  | case2 output stack => rfl
  | case3 output op stack ih => exact ih (by simpa using h)

variable {c c' : Conversion} {token : Token} {tokens : List Token}

/-- Only a right parenthesis without a left one can fail to be taken in. -/
theorem exists_push (h : token = .rightParen → 0 < c.opened) : ∃ c', c.push token = .ok c' := by
  cases token with
  | leftParen => exact ⟨_, rfl⟩
  | rightParen =>
    obtain ⟨result, hclose⟩ := exists_close (h rfl) c.output
    rw [push, hclose]
    exact ⟨_, rfl⟩
  | operator op =>
    rw [push]
    split <;> exact ⟨_, rfl⟩
  | operand t => exact ⟨_, rfl⟩

theorem push_of_opened_eq_zero (h : c.opened = 0) :
    c.push .rightParen = .error .unmatchedRightParen := by
  rw [push, close_of_count_eq_zero h]
  rfl

/-- Tokens are taken in as long as none of their beginnings closes more than is open. -/
theorem exists_foldlM
    (h : ∀ p, p <+: tokens → p.count .rightParen ≤ c.opened + p.count .leftParen) :
    ∃ c', tokens.foldlM push c = .ok c' := by
  induction tokens generalizing c with
  | nil => exact ⟨c, rfl⟩
  | cons token tokens ih =>
    have hfirst := h [token] (by simp)
    obtain ⟨c₁, hpush⟩ : ∃ c₁, c.push token = .ok c₁ := by
      refine exists_push ?_
      rintro rfl
      simpa [Nat.one_le_iff_ne_zero, Nat.pos_iff_ne_zero] using hfirst
    have hopened := (pushed hpush).opened
    rw [List.foldlM_cons, hpush]
    refine ih fun p hp => ?_
    have hp' := h (token :: p) (List.cons_prefix_cons.mpr ⟨rfl, hp⟩)
    simp only [List.count_cons, beq_iff_eq] at hp'
    omega

/-- Tokens of which a beginning closes more than is open are refused there. -/
theorem foldlM_overclosed {p : List Token} (hp : p <+: tokens)
    (h : c.opened + p.count .leftParen < p.count .rightParen) :
    tokens.foldlM push c = .error .unmatchedRightParen := by
  induction tokens generalizing c p with
  | nil =>
    obtain rfl := List.prefix_nil.mp hp
    simp at h
  | cons token tokens ih =>
    cases p with
    | nil => simp at h
    | cons token' p =>
      obtain ⟨rfl, htail⟩ := List.cons_prefix_cons.mp hp
      rw [List.foldlM_cons]
      by_cases hclosed : token' = .rightParen ∧ c.opened = 0
      · obtain ⟨rfl, hzero⟩ := hclosed
        rw [push_of_opened_eq_zero hzero]
        rfl
      · have hpos (ht : token' = .rightParen) : 0 < c.opened :=
          Nat.pos_of_ne_zero fun hzero => hclosed ⟨ht, hzero⟩
        obtain ⟨c₁, hpush⟩ := exists_push hpos
        have hopened := (pushed hpush).opened
        rw [hpush]
        refine ih htail ?_
        simp only [List.count_cons, beq_iff_eq] at h
        omega

/-- Left parentheses are opened and right ones close them, throughout the tokens. -/
theorem opened_of_foldlM (h : tokens.foldlM push c = .ok c') :
    c'.opened + tokens.count .rightParen = c.opened + tokens.count .leftParen := by
  induction tokens generalizing c with
  | nil =>
    obtain rfl := Except.ok.inj h
    rfl
  | cons token tokens ih =>
    rw [List.foldlM_cons] at h
    obtain ⟨c₁, hpush, hrest⟩ := exists_of_bind_eq_ok h
    have hfirst := (pushed hpush).opened
    have hlast := ih hrest
    simp only [List.count_cons, beq_iff_eq]
    omega

/-! ### The end of the conversion -/

theorem finish_of_opened_pos (h : 0 < c.opened) : c.finish = .error .unmatchedLeftParen := by
  rw [finish, drain_of_count_pos h]
  rfl

theorem finish_of_items_eq_nil (hopened : c.opened = 0) (hitems : c.items = []) :
    c.finish = .error .emptyExpression := by
  obtain ⟨output, hdrain⟩ := exists_drain hopened c.output
  obtain rfl : output = [] := by
    have hperm := (drain_perm hdrain).1
    rw [← items, hitems] at hperm
    exact hperm.eq_nil
  rw [finish, hdrain]
  rfl

/-- A conversion with something to write and nothing left open succeeds. -/
theorem exists_finish (hopened : c.opened = 0) (hitems : c.items ≠ []) :
    ∃ items, c.finish = .ok items := by
  obtain ⟨output, hdrain⟩ := exists_drain hopened c.output
  refine ⟨_, finish_of_drain hdrain ?_⟩
  rintro rfl
  exact hitems (drain_perm hdrain).1.symm.eq_nil

end Conversion

/-! ### What is reordered -/

/-- The items that tokens stand for, in order, if an operand is or is not expected in front of
them. -/
def Token.itemsFrom (expectOperand : Bool) : List Token → List Item
  | [] => []
  | token :: tokens => (token.item? expectOperand).toList ++ itemsFrom (!token.endsOperand) tokens

/-- The text of a token that is an operand. -/
def Token.operand? : Token → Option Text
  | .operand t => some t
  | _ => none

/-- The text of an item that is an operand. -/
def Item.operand? : Item → Option Text
  | .operand t => some t
  | _ => none

namespace Conversion

variable {c c' : Conversion} {token : Token} {tokens : List Token}

/-- The items of a conversion are those of the tokens taken in, in some order. -/
theorem items_of_foldlM (h : tokens.foldlM push c = .ok c') :
    c'.items.Perm (Token.itemsFrom c.expectOperand tokens ++ c.items) := by
  induction tokens generalizing c with
  | nil =>
    obtain rfl := Except.ok.inj h
    exact .refl _
  | cons token tokens ih =>
    rw [List.foldlM_cons] at h
    obtain ⟨c₁, hpush, hrest⟩ := exists_of_bind_eq_ok h
    have hfirst := (pushed hpush).items
    have hlast := ih hrest
    rw [(pushed hpush).expectOperand] at hlast
    rw [Token.itemsFrom, List.append_assoc]
    exact (hlast.trans (hfirst.append_left _)).trans (List.perm_append_comm_assoc _ _ _)

/-- The operands written so far, in order. -/
def operands (c : Conversion) : List Text := (c.output.filterMap Item.operand?).reverse

/-- Operators that are released move no operand. -/
theorem filterMap_release (precedence : Nat) (stack : List Pending) (output : List Item) :
    (release precedence stack output).2.filterMap Item.operand? =
      output.filterMap Item.operand? := by
  fun_induction release precedence stack output with
  | case1 output op stack hle ih => exact ih
  | case2 output op stack hlt => rfl
  | case3 stack output hstack => rfl

theorem filterMap_close {stack stack' : List Pending} {output output' : List Item}
    (h : close stack output = .ok (stack', output')) :
    output'.filterMap Item.operand? = output.filterMap Item.operand? := by
  fun_induction close stack output with
  | case1 output => cases h
  | case2 output stack =>
    cases h
    rfl
  | case3 output op stack ih => exact ih h

theorem filterMap_drain {stack : List Pending} {output output' : List Item}
    (h : drain stack output = .ok output') :
    output'.filterMap Item.operand? = output.filterMap Item.operand? := by
  fun_induction drain stack output with
  | case1 output =>
    cases h
    rfl
  | case2 output stack => cases h
  | case3 output op stack ih => exact ih h

/-- An operand is written behind those that have been written, and nothing else moves operands. -/
theorem operands_of_push (h : c.push token = .ok c') :
    c'.operands = c.operands ++ token.operand?.toList := by
  cases token with
  | leftParen =>
    obtain rfl := Except.ok.inj h
    exact (List.append_nil _).symm
  | rightParen =>
    obtain ⟨⟨stack, output⟩, hclose, h⟩ := exists_of_bind_eq_ok h
    obtain rfl := Except.ok.inj h
    simp [operands, Token.operand?, filterMap_close hclose]
  | operator op =>
    rw [push] at h
    split at h
    · obtain rfl := Except.ok.inj h
      exact (List.append_nil _).symm
    · obtain rfl := Except.ok.inj h
      simp [operands, Token.operand?, filterMap_release]
  | operand t =>
    obtain rfl := Except.ok.inj h
    simp [operands, Token.operand?, Item.operand?]

/-- Operands are written in the order in which they are taken in. -/
theorem operands_of_foldlM (h : tokens.foldlM push c = .ok c') :
    c'.operands = c.operands ++ tokens.filterMap Token.operand? := by
  induction tokens generalizing c with
  | nil =>
    obtain rfl := Except.ok.inj h
    exact (List.append_nil _).symm
  | cons token tokens ih =>
    rw [List.foldlM_cons] at h
    obtain ⟨c₁, hpush, hrest⟩ := exists_of_bind_eq_ok h
    rw [ih hrest, operands_of_push hpush]
    cases ht : token.operand? <;> simp [ht]

theorem operands_of_finish {items : List Item} (h : c.finish = .ok items) :
    items.filterMap Item.operand? = c.operands := by
  obtain ⟨output, hdrain, h⟩ := exists_of_bind_eq_ok h
  cases output with
  | nil => cases h
  | cons item output =>
    obtain rfl := Except.ok.inj h
    rw [List.filterMap_reverse, filterMap_drain hdrain, operands]

end Conversion

/-! ### Lists of texts -/

/-- Whether a text is a parenthesis. -/
def isParenText (t : Text) : Bool := t == ['('] || t == [')']

/-- Whether a text is neither a parenthesis nor an operator. -/
def isOperandWord (t : Text) : Bool := !isParenText t && (Operator.ofText? t).isNone

/-- Whether an operand is expected behind a text: at the start, where there is none, and behind a
left parenthesis or an operator. -/
def expectsOperand : Option Text → Bool
  | none => true
  | some t => t == ['('] || (Operator.ofText? t).isSome

/-- How a text that stands behind another one is spelled in postfix order: a minus sign where an
operand is expected is a negation. -/
def spelledBehind (before : Option Text) (t : Text) : Text :=
  if t = ['-'] ∧ expectsOperand before = true then Operator.negate.spelling else t

/-- The texts of a list as they are spelled in postfix order, without the parentheses. -/
def spelledOut (ts : List Text) : List Text :=
  (List.zipWith spelledBehind (none :: ts.map some) ts).filter fun t => !isParenText t

theorem isParenText_spelling (op : Operator) : isParenText op.spelling = false := by
  obtain ⟨-, -, hleft, hright⟩ := op.spelling_ne
  simp [isParenText, hleft, hright]

/-- Reading a text as a token tells whether an operand is expected behind it. -/
theorem expectsOperand_some (t : Text) :
    expectsOperand (some t) = !(Token.ofText t).endsOperand := by
  rcases Token.ofText_cases t with rfl | rfl | ⟨op, rfl⟩ | ⟨hleft, hright, hop⟩
  · rfl
  · decide
  · simp [expectsOperand, Token.endsOperand]
  · simp [expectsOperand, Token.endsOperand, Token.ofText_of_eq_none hleft hright hop, hleft, hop]

/-- A text stands for an operand exactly if it is neither a parenthesis nor an operator. -/
theorem Token.operand?_ofText (t : Text) :
    (ofText t).operand? = Option.guard isOperandWord t := by
  rcases ofText_cases t with rfl | rfl | ⟨op, rfl⟩ | ⟨hleft, hright, hop⟩
  · rfl
  · rfl
  · simp [operand?, isOperandWord, Option.guard]
  · simp [operand?, isOperandWord, isParenText, ofText_of_eq_none hleft hright hop, hleft, hright,
      hop]

/-- The item of a token has the text as it is spelled in postfix order. -/
theorem Token.item?_ofText (before : Option Text) (t : Text) :
    ((ofText t).item? (expectsOperand before)).toList.map Item.text =
      [spelledBehind before t].filter fun t => !isParenText t := by
  rcases ofText_cases t with rfl | rfl | ⟨op, rfl⟩ | ⟨hleft, hright, hop⟩
  · rfl
  · rfl
  · have hsign : op.spelling = ['-'] ↔ op = .binary (.arithmetic .subtract) :=
      Operator.spelling_injective.eq_iff' rfl
    rw [ofText_spelling, item?, spelledBehind]
    simp only [hsign]
    split_ifs <;> simp [Item.text, isParenText_spelling]
  · have hsign : t ≠ ['-'] := by
      rintro rfl
      exact absurd hop (by decide)
    rw [ofText_of_eq_none hleft hright hop, item?, spelledBehind, if_neg fun h => hsign h.1]
    simp [Item.text, isParenText, hleft, hright]

/-- The items of a list of texts are spelled as they are in postfix order. -/
theorem Token.map_text_itemsFrom (before : Option Text) (ts : List Text) :
    (itemsFrom (expectsOperand before) (ts.map ofText)).map Item.text =
      (List.zipWith spelledBehind (before :: ts.map some) ts).filter fun t => !isParenText t := by
  induction ts generalizing before with
  | nil => rfl
  | cons t ts ih =>
    rw [List.map_cons, List.map_cons, itemsFrom, List.map_append, item?_ofText,
      ← expectsOperand_some, ih, List.zipWith_cons_cons, ← List.filter_append,
      List.singleton_append]

theorem Token.filterMap_operand? (ts : List Text) :
    (ts.map ofText).filterMap operand? = ts.filter isOperandWord := by
  rw [List.filterMap_map, ← List.filterMap_eq_filter]
  exact congrArg (List.filterMap · ts) (funext operand?_ofText)

/-- The texts among items that are neither parentheses nor operators are the operands, if no operand
is spelled like one of these. -/
theorem Item.filter_map_text {items : List Item}
    (h : ∀ t ∈ items.filterMap operand?, isOperandWord t = true) :
    (items.map text).filter isOperandWord = items.filterMap operand? := by
  induction items with
  | nil => rfl
  | cons item items ih =>
    cases item with
    | operator op =>
      have hop : isOperandWord op.spelling = false := by simp [isOperandWord]
      rw [List.map_cons, text, List.filter_cons_of_neg (by simp [hop]), ih h,
        List.filterMap_cons_none rfl]
    | operand t =>
      obtain ⟨ht, hrest⟩ := List.forall_mem_cons.mp h
      rw [List.map_cons, text, List.filter_cons_of_pos ht, ih hrest]
      rfl

/-- Some beginning of the list has more right parentheses than left ones. -/
def Overclosed (ts : List Text) : Prop := ∃ p, p <+: ts ∧ p.count ['('] < p.count [')']

/-- The list has more left parentheses than right ones. -/
def Underclosed (ts : List Text) : Prop := ts.count [')'] < ts.count ['(']

theorem Token.count_map_ofText (ts : List Text) :
    (ts.map ofText).count .leftParen = ts.count ['('] ∧
      (ts.map ofText).count .rightParen = ts.count [')'] :=
  ⟨List.count_map_of_injective ts ofText ofText_injective ['('],
    List.count_map_of_injective ts ofText ofText_injective [')']⟩

/-- A list that closes too much somewhere is refused for a right parenthesis. -/
theorem toPostfix_of_overclosed {ts : List Text} (h : Overclosed ts) :
    toPostfix (ts.map Token.ofText) = .error .unmatchedRightParen := by
  obtain ⟨p, hp, hlt⟩ := h
  obtain ⟨hleft, hright⟩ := Token.count_map_ofText p
  have hrun : (ts.map Token.ofText).foldlM Conversion.push {} = .error .unmatchedRightParen := by
    refine Conversion.foldlM_overclosed (hp.map Token.ofText) ?_
    rw [hleft, hright]
    exact (Nat.zero_add _).trans_lt hlt
  rw [toPostfix, hrun]
  rfl

/-- If no beginning of the list has more right parentheses than left ones, the conversion gets to
the end, with the items of the list and as many open parentheses as are not closed. -/
theorem exists_conversion {ts : List Text} (h : ¬Overclosed ts) :
    ∃ c : Conversion, toPostfix (ts.map Token.ofText) = c.finish ∧
      c.opened + ts.count [')'] = ts.count ['('] ∧
      (c.items.map Item.text).Perm (spelledOut ts) ∧ c.operands = ts.filter isOperandWord := by
  have hprefix : ∀ p, p <+: ts.map Token.ofText →
      p.count .rightParen ≤ ({} : Conversion).opened + p.count .leftParen := by
    intro p hp
    obtain ⟨q, hq, rfl⟩ := List.prefix_map_iff.mp hp
    obtain ⟨hleft, hright⟩ := Token.count_map_ofText q
    rw [hleft, hright]
    refine Nat.le_of_not_lt fun hlt => h ⟨q, hq, ?_⟩
    exact (Nat.zero_add _).symm.trans_lt hlt
  obtain ⟨c, hrun⟩ := Conversion.exists_foldlM hprefix
  obtain ⟨hleft, hright⟩ := Token.count_map_ofText ts
  refine ⟨c, ?_, ?_, ?_, ?_⟩
  · rw [toPostfix, hrun]
    rfl
  · rw [← hleft, ← hright, Conversion.opened_of_foldlM hrun]
    exact Nat.zero_add _
  · have hitems := Conversion.items_of_foldlM hrun
    rw [show ({} : Conversion).items = [] from rfl, List.append_nil] at hitems
    rw [spelledOut, ← Token.map_text_itemsFrom]
    exact hitems.map Item.text
  · rw [Conversion.operands_of_foldlM hrun, Token.filterMap_operand?]
    rfl

/-- A list that closes too little in the end is refused for a left parenthesis. -/
theorem toPostfix_of_underclosed {ts : List Text} (hover : ¬Overclosed ts) (h : Underclosed ts) :
    toPostfix (ts.map Token.ofText) = .error .unmatchedLeftParen := by
  obtain ⟨c, hc, hopened, -, -⟩ := exists_conversion hover
  have hpos : 0 < c.opened := by
    rw [Underclosed] at h
    omega
  rw [hc, Conversion.finish_of_opened_pos hpos]

theorem isParenText_of_mem_spelledOut {ts : List Text} :
    ∀ t ∈ spelledOut ts, isParenText t = false := by
  intro t ht
  simpa using (List.mem_filter.mp ht).2

theorem isParenText_spelledBehind (before : Option Text) (t : Text) :
    isParenText (spelledBehind before t) = isParenText t := by
  rw [spelledBehind]
  split
  · rename_i h
    rw [h.1]
    rfl
  · rfl

/-- Nothing is left of a list exactly if it holds nothing but parentheses. -/
theorem spelledOut_eq_nil_iff {ts : List Text} :
    spelledOut ts = [] ↔ ∀ t ∈ ts, isParenText t = true := by
  rw [spelledOut]
  generalize (none : Option Text) = before
  induction ts generalizing before with
  | nil => simp
  | cons t ts ih =>
    rw [List.map_cons, List.zipWith_cons_cons, List.filter_cons, isParenText_spelledBehind,
      List.forall_mem_cons, ← ih (some t)]
    cases isParenText t <;> simp

/-- Matching parentheses with nothing inside are an empty expression. -/
theorem toPostfix_of_parens {ts : List Text} (hover : ¬Overclosed ts) (hunder : ¬Underclosed ts)
    (h : ∀ t ∈ ts, isParenText t = true) :
    toPostfix (ts.map Token.ofText) = .error .emptyExpression := by
  obtain ⟨c, hc, hopened, hperm, -⟩ := exists_conversion hover
  have hzero : c.opened = 0 := by
    rw [Underclosed] at hunder
    omega
  have hitems : c.items = [] := by
    rw [spelledOut_eq_nil_iff.mpr h] at hperm
    exact List.map_eq_nil_iff.mp hperm.eq_nil
  rw [hc, Conversion.finish_of_items_eq_nil hzero hitems]

/-- Any other list is converted, which reorders its operators only. -/
theorem exists_toPostfix {ts : List Text} (hover : ¬Overclosed ts) (hunder : ¬Underclosed ts)
    (h : ¬∀ t ∈ ts, isParenText t = true) :
    ∃ items, toPostfix (ts.map Token.ofText) = .ok items ∧
      (items.map Item.text).Perm (spelledOut ts) ∧
      (items.map Item.text).filter isOperandWord = ts.filter isOperandWord := by
  obtain ⟨c, hc, hopened, hperm, hoperands⟩ := exists_conversion hover
  have hzero : c.opened = 0 := by
    rw [Underclosed] at hunder
    omega
  have hitems : c.items ≠ [] := by
    intro hnil
    rw [hnil] at hperm
    exact h (spelledOut_eq_nil_iff.mp hperm.symm.eq_nil)
  obtain ⟨items, hfinish⟩ := Conversion.exists_finish hzero hitems
  have horder : items.filterMap Item.operand? = ts.filter isOperandWord :=
    (Conversion.operands_of_finish hfinish).trans hoperands
  refine ⟨items, hc.trans hfinish, ?_, ?_⟩
  · exact ((Conversion.perm_of_finish hfinish).1.map Item.text).trans hperm
  · rw [Item.filter_map_text, horder]
    intro t ht
    rw [horder] at ht
    exact (List.mem_filter.mp ht).2

/-- **The conversion reorders, and parentheses alone decide whether it succeeds.** On any list of
texts it fails if a right parenthesis has no left one in front of it, otherwise if a left one is not
closed, otherwise if there are only parentheses, and in no other case. What it gives is a
permutation of the texts that are no parentheses, with minus signs spelled as negations exactly
where an operand is expected; texts that are no operators keep their order, and no parenthesis is
left. -/
theorem toPostfix_reorders (ts : List Text) :
    let result := (toPostfix (ts.map Token.ofText)).mapError Fault.message
    (result = .error "Unmatched ')' in expression" ↔ Overclosed ts) ∧
    (result = .error "Unmatched '(' in expression" ↔ ¬Overclosed ts ∧ Underclosed ts) ∧
    (result = .error "Empty expression" ↔
      ¬Overclosed ts ∧ ¬Underclosed ts ∧ ∀ t ∈ ts, isParenText t = true) ∧
    ((∃ items, result = .ok items) ↔
      ¬Overclosed ts ∧ ¬Underclosed ts ∧ ¬∀ t ∈ ts, isParenText t = true) ∧
    ∀ items, result = .ok items →
      (items.map Item.text).Perm (spelledOut ts) ∧
      (items.map Item.text).filter isOperandWord = ts.filter isOperandWord ∧
      ∀ t ∈ items.map Item.text, isParenText t = false := by
  intro result
  by_cases hover : Overclosed ts
  · have hresult : result = .error "Unmatched ')' in expression" := by
      simp only [result, toPostfix_of_overclosed hover]
      rfl
    simp [hresult, hover]
  by_cases hunder : Underclosed ts
  · have hresult : result = .error "Unmatched '(' in expression" := by
      simp only [result, toPostfix_of_underclosed hover hunder]
      rfl
    simp [hresult, hover, hunder]
  by_cases hparens : ∀ t ∈ ts, isParenText t = true
  · have hresult : result = .error "Empty expression" := by
      simp only [result, toPostfix_of_parens hover hunder hparens]
      rfl
    simpa [hresult, hover, hunder] using hparens
  · obtain ⟨items, hitems, hperm, horder⟩ := exists_toPostfix hover hunder hparens
    have hresult : result = .ok items := by
      simp only [result, hitems]
      rfl
    have hnone : ∀ t ∈ items.map Item.text, isParenText t = false := fun t ht =>
      isParenText_of_mem_spelledOut t (hperm.mem_iff.mp ht)
    simp only [hresult, reduceCtorEq, hover, hunder, hparens, not_false_eq_true, and_false,
      and_self, Except.ok.injEq, exists_eq', true_and]
    rintro _ rfl
    exact ⟨hperm, horder, hnone⟩

/-- The list `- ( a 2 - neg )` is no expression. It is converted all the same, and its first minus
sign is the only one that stands where an operand is expected. -/
theorem toPostfix_reorders_misshapen :
    let ts : List Text := [['-'], ['('], ['a'], ['2'], ['-'], ['n', 'e', 'g'], [')']]
    ∃ items, toPostfix (ts.map Token.ofText) = .ok items ∧
      (items.map Item.text).Perm [['n', 'e', 'g'], ['a'], ['2'], ['-'], ['n', 'e', 'g']] ∧
      (items.map Item.text).filter isOperandWord = [['a'], ['2']] := by
  intro ts
  have hitems : toPostfix (ts.map Token.ofText) = .ok [.operand ['a'], .operand ['2'],
      .operator .negate, .operator (.binary (.arithmetic .subtract)), .operator .negate] := by
    decide +kernel
  obtain ⟨-, -, -, -, hreorders⟩ := toPostfix_reorders ts
  obtain ⟨hperm, horder, -⟩ := hreorders _ (by rw [hitems]; rfl)
  exact ⟨_, hitems, hperm, horder⟩

end LineScript
