import LineScript.Proofs.Acceptance
import LineScript.Proofs.Wording

/-!
# Integers and truth values

Nothing but a comparison makes a truth value, and nothing takes one from the stack: an operator
that finds one there fails. So every comparison that has been evaluated is still on the stack, as a
truth value, when the evaluation ends, and since only one value may be left then, an expression with
a value holds at most one comparison, and the value is a truth value exactly if it holds one.

This does not depend on the shape of the expression. Whatever the order of the tokens is, putting
them into postfix order neither loses nor makes a comparison (`perm_of_toPostfix`), and evaluating
an item makes as many truth values as it is comparisons (`Item.truths_of_eval`).
-/

namespace LineScript

/-- The comparisons among some tokens, in order. -/
def Token.comparisons (tokens : List Token) : List Comparison := tokens.filterMap comparison?

theorem Token.comparisons_cons (token : Token) (tokens : List Token) :
    comparisons (token :: tokens) = token.comparison?.toList ++ comparisons tokens := by
  cases h : token.comparison? <;> simp [comparisons, h]

/-! ### Comparisons in postfix order -/

namespace Item

/-- The comparison an item is, if it is one. -/
def comparison? : Item → Option Comparison
  | operator (.binary (.comparison op)) => some op
  | _ => none

/-- The comparisons among some items, in order. -/
def comparisons (items : List Item) : List Comparison := items.filterMap comparison?

theorem comparisons_cons (item : Item) (items : List Item) :
    comparisons (item :: items) = item.comparison?.toList ++ comparisons items := by
  cases h : item.comparison? <;> simp [comparisons, h]

end Item

/-- A token is the same comparison as its item, wherever it stands. -/
theorem Token.filterMap_item? (expectOperand : Bool) (token : Token) :
    (token.item? expectOperand).toList.filterMap Item.comparison? = token.comparison?.toList := by
  match token with
  | leftParen => rfl
  | rightParen => rfl
  | operand t => rfl
  | operator .negate => simp [item?, Item.comparison?, comparison?]
  | operator (.binary (.comparison op)) => simp [item?, Item.comparison?, comparison?]
  | operator (.binary (.arithmetic op)) =>
    rw [item?]
    split_ifs <;> rfl

namespace Conversion

theorem Pushed.comparisons {c c' : Conversion} {token : Token} (h : c.Pushed token c') :
    (Item.comparisons c'.items).Perm (token.comparison?.toList ++ Item.comparisons c.items) := by
  rw [← Token.filterMap_item? c.expectOperand token, Item.comparisons, Item.comparisons,
    ← List.filterMap_append]
  exact h.items.filterMap _

theorem comparisons_of_foldlM {tokens : List Token} {c c' : Conversion}
    (h : tokens.foldlM Conversion.push c = .ok c') :
    (Item.comparisons c'.items).Perm (Token.comparisons tokens ++ Item.comparisons c.items) := by
  induction tokens generalizing c with
  | nil =>
    obtain rfl := Except.ok.inj h
    exact .refl _
  | cons token tokens ih =>
    rw [List.foldlM_cons] at h
    obtain ⟨c₁, hpush, hrest⟩ := exists_of_bind_eq_ok h
    have hfirst := (pushed hpush).comparisons.append_left (Token.comparisons tokens)
    rw [Token.comparisons_cons, List.append_assoc]
    exact (ih hrest).trans (hfirst.trans (List.perm_append_comm_assoc _ _ _))

end Conversion

/-- Conversion to postfix order keeps the comparisons, whatever is converted. -/
theorem perm_of_toPostfix {tokens : List Token} {items : List Item}
    (h : toPostfix tokens = .ok items) :
    (Item.comparisons items).Perm (Token.comparisons tokens) := by
  obtain ⟨c, hrun, hfinish⟩ := exists_of_bind_eq_ok h
  obtain ⟨hperm, -⟩ := Conversion.perm_of_finish hfinish
  have hall := Conversion.comparisons_of_foldlM hrun
  rw [show Item.comparisons ({} : Conversion).items = [] from rfl, List.append_nil] at hall
  exact (hperm.filterMap _).trans hall

/-! ### Truth values on the stack -/

/-- Whether a value is a truth value. -/
def Value.isTruth : Value → Bool
  | int _ => false
  | truth _ => true

theorem Value.isTruth_eq_false_iff {v : Value} : v.isTruth = false ↔ ∃ n, v = .int n := by
  cases v <;> simp [isTruth]

/-- The number of truth values on a stack. -/
def truths (stack : List Value) : Nat := stack.countP Value.isTruth

theorem truths_cons (v : Value) (stack : List Value) :
    truths (v :: stack) = truths stack + if v.isTruth then 1 else 0 :=
  List.countP_cons

namespace Item

theorem truths_of_popOperand {op : Operator} {stack stack' : List Value} {n : Int}
    (h : popOperand op stack = .ok (n, stack')) : truths stack = truths stack' := by
  unfold popOperand at h
  split at h <;> cases h
  exact truths_cons _ _

/-- A binary operator makes a truth value exactly if it is a comparison. -/
theorem isTruth_of_apply {op : BinaryOp} {left right : Int} {v : Value}
    (h : op.apply left right = .ok v) :
    (if v.isTruth then 1 else 0) = (operator (.binary op)).comparison?.toList.length := by
  match op with
  | .comparison op =>
    obtain rfl := Except.ok.inj h
    rfl
  | .arithmetic op =>
    rw [BinaryOp.apply] at h
    cases hn : op.apply left right with
    | error f => simp [hn, Except.map] at h
    | ok n =>
      rw [hn] at h
      obtain rfl := Except.ok.inj h
      rfl

/-- Evaluating an item makes a truth value if it is a comparison, and takes none. -/
theorem truths_of_eval {store : Store} {stack stack' : List Value} {item : Item}
    (h : item.eval store stack = .ok stack') :
    truths stack' = truths stack + item.comparison?.toList.length := by
  match item with
  | .operand t =>
    obtain ⟨n, -, h⟩ := exists_of_bind_eq_ok h
    obtain rfl := Except.ok.inj h
    exact truths_cons _ _
  | .operator .negate =>
    obtain ⟨⟨n, rest⟩, hpop, h⟩ := exists_of_bind_eq_ok h
    obtain rfl := Except.ok.inj h
    rw [truths_of_popOperand hpop]
    exact truths_cons _ _
  | .operator (.binary op) =>
    obtain ⟨⟨right, rest⟩, hright, h⟩ := exists_of_bind_eq_ok h
    obtain ⟨⟨left, rest'⟩, hleft, h⟩ := exists_of_bind_eq_ok h
    obtain ⟨v, hv, h⟩ := exists_of_bind_eq_ok h
    obtain rfl := Except.ok.inj h
    rw [truths_of_popOperand hright, truths_of_popOperand hleft, truths_cons, isTruth_of_apply hv]

theorem truths_of_foldlM {store : Store} {items : List Item} {stack stack' : List Value}
    (h : items.foldlM (Item.eval store) stack = .ok stack') :
    truths stack' = truths stack + (comparisons items).length := by
  induction items generalizing stack with
  | nil =>
    obtain rfl := Except.ok.inj h
    rfl
  | cons item items ih =>
    rw [List.foldlM_cons] at h
    obtain ⟨stack₁, hitem, hrest⟩ := exists_of_bind_eq_ok h
    rw [ih hrest, truths_of_eval hitem, comparisons_cons, List.length_append, Nat.add_assoc]

end Item

/-- The value of items in postfix order tells how many comparisons there are among them. -/
theorem comparisons_of_evalPostfix {store : Store} {items : List Item} {v : Value}
    (h : evalPostfix store items = .ok v) :
    (Item.comparisons items).length = if v.isTruth then 1 else 0 := by
  obtain ⟨stack, hstack, h⟩ := exists_of_bind_eq_ok h
  have htruths := Item.truths_of_foldlM hstack
  match stack, h with
  | [value], h =>
    obtain rfl := Except.ok.inj h
    simpa [truths_cons, truths] using htruths.symm

/-! ### Expressions -/

/-- What has been cut into tokens is converted, and then evaluated. -/
theorem evalInfix_of_tokenize {store : Store} {t : Text} {tokens : List Token}
    (ht : Token.tokenize t = .ok tokens) :
    evalInfix store t = toPostfix tokens >>= evalPostfix store := by
  rw [evalInfix, infixToPostfix, ht]
  rfl

theorem exists_tokenize_of_evalInfix {store : Store} {t : Text} {v : Value}
    (h : evalInfix store t = .ok v) : ∃ tokens, Token.tokenize t = .ok tokens := by
  obtain ⟨items, hitems, -⟩ := exists_of_bind_eq_ok h
  obtain ⟨tokens, ht, -⟩ := exists_of_bind_eq_ok hitems
  exact ⟨tokens, ht⟩

/-- The value of an expression tells how many comparisons are written in it. -/
theorem comparisons_of_evalInfix {store : Store} {t : Text} {tokens : List Token} {v : Value}
    (ht : Token.tokenize t = .ok tokens) (h : evalInfix store t = .ok v) :
    (Token.comparisons tokens).length = if v.isTruth then 1 else 0 := by
  rw [evalInfix_of_tokenize ht] at h
  obtain ⟨items, hpostfix, hvalue⟩ := exists_of_bind_eq_ok h
  rw [← (perm_of_toPostfix hpostfix).length_eq, comparisons_of_evalPostfix hvalue]

/-- Where comparisons are refused, an expression without them is evaluated as anywhere. -/
theorem evalArithmetic_of_tokenize {store : Store} {t : Text} {tokens : List Token}
    (ht : Token.tokenize t = .ok tokens) :
    evalArithmetic store t =
      match tokens.findSome? Token.comparison? with
      | some op => .error (.strayComparison op)
      | none => evalInfix store t := by
  rw [evalArithmetic, evalInfix_of_tokenize ht, ht]
  rfl

/-- A condition with one comparison is evaluated as anywhere, and its value is then looked at. -/
theorem evalCondition_of_tokenize {store : Store} {t : Text} {tokens : List Token}
    (ht : Token.tokenize t = .ok tokens) :
    evalCondition store t =
      if (Token.comparisons tokens).length = 1 then do
        match ← evalInfix store t with
        | .truth b => return b
        | .int _ => .error .conditionWithoutTruth
      else .error (.comparisonCount (Token.comparisons tokens).length) := by
  rw [evalCondition, evalInfix_of_tokenize ht, ht, bind_assoc]
  rfl

theorem evalArithmetic_eq_ok_iff {store : Store} {t : Text} {v : Value} :
    evalArithmetic store t = .ok v ↔ evalInfix store t = .ok v ∧ ∃ n, v = .int n := by
  rw [← Value.isTruth_eq_false_iff]
  constructor
  · intro h
    obtain ⟨tokens, ht, -⟩ := exists_of_bind_eq_ok h
    rw [evalArithmetic_of_tokenize ht] at h
    cases hfind : tokens.findSome? Token.comparison? with
    | some op => simp [hfind] at h
    | none =>
      rw [hfind] at h
      have hnone : Token.comparisons tokens = [] := by
        simpa [Token.comparisons, List.findSome?_eq_none_iff] using hfind
      have hcount := comparisons_of_evalInfix ht h
      refine ⟨h, ?_⟩
      simpa [hnone] using hcount
  · rintro ⟨h, hint⟩
    obtain ⟨tokens, ht⟩ := exists_tokenize_of_evalInfix h
    have hcount := comparisons_of_evalInfix ht h
    have hnone : tokens.findSome? Token.comparison? = none := by
      simpa [hint, Token.comparisons, List.findSome?_eq_none_iff] using hcount
    rw [evalArithmetic_of_tokenize ht, hnone]
    exact h

theorem evalCondition_eq_ok_iff {store : Store} {t : Text} {b : Bool} :
    evalCondition store t = .ok b ↔ evalInfix store t = .ok (.truth b) := by
  constructor
  · intro h
    obtain ⟨tokens, ht, -⟩ := exists_of_bind_eq_ok h
    rw [evalCondition_of_tokenize ht] at h
    split_ifs at h
    obtain ⟨v, hv, h⟩ := exists_of_bind_eq_ok h
    match v, h with
    | .truth b', h =>
      obtain rfl := Except.ok.inj h
      exact hv
  · intro h
    obtain ⟨tokens, ht⟩ := exists_tokenize_of_evalInfix h
    have hcount := comparisons_of_evalInfix ht h
    rw [evalCondition_of_tokenize ht, if_pos (by simpa [Value.isTruth] using hcount), h]
    rfl

/-- Whatever an expression fails with has been found in one of the passes over it. -/
theorem evalInfix_failsOnly (store : Store) (t : Text) :
    FailsOnly (fun f => f.pass? ≠ none) (evalInfix store t) := by
  have hsome (pass : Pass) (f : Fault) (hf : f.ArisesIn pass) : f.pass? ≠ none := by simp [hf.2]
  refine FailsOnly.bind (FailsOnly.bind ?_ fun tokens => ?_) fun items => ?_
  · exact (Token.tokenize_failsOnly t).imp (hsome .lexing)
  · exact (toPostfix_failsOnly tokens).imp (hsome .conversion)
  · exact (evalPostfix_failsOnly store items).imp (hsome .evaluation)

theorem evalCondition_ne_conditionWithoutTruth (store : Store) (t : Text) :
    evalCondition store t ≠ .error .conditionWithoutTruth := by
  intro h
  have hinfix : evalInfix store t ≠ .error .conditionWithoutTruth := fun herror =>
    evalInfix_failsOnly store t _ herror rfl
  cases ht : Token.tokenize t with
  | error f =>
    rw [evalCondition, ht] at h
    rw [evalInfix, infixToPostfix, ht] at hinfix
    exact hinfix (congrArg Except.error (Except.error.inj h))
  | ok tokens =>
    rw [evalCondition_of_tokenize ht] at h
    split_ifs at h with hone
    · cases hvalue : evalInfix store t with
      | error f =>
        rw [hvalue] at h hinfix
        exact hinfix (congrArg Except.error (Except.error.inj h))
      | ok v =>
        -- The one comparison has made the value, and a truth value is handed on.
        have hcount := comparisons_of_evalInfix ht hvalue
        rw [hvalue] at h
        cases v with
        | truth b => cases h
        | int n => simp [hone, Value.isTruth] at hcount
    · cases h

/-- **The value of an expression is a truth value exactly if it holds a comparison**, and then it
holds only one, whatever its text is like. Where comparisons are refused, only integers come out;
a condition has a value exactly if the expression has a truth value, and an integer is never found
in its place. -/
theorem evalInfix_kind (store : Store) (t : Text) :
    (∀ v, evalInfix store t = .ok v → ∃ tokens, Token.tokenize t = .ok tokens ∧
      ((Token.comparisons tokens).length = 1 ∧ (∃ b, v = .truth b) ∨
        (Token.comparisons tokens).length = 0 ∧ ∃ n, v = .int n)) ∧
    (∀ v, evalArithmetic store t = .ok v ↔ evalInfix store t = .ok v ∧ ∃ n, v = .int n) ∧
    (∀ b, evalCondition store t = .ok b ↔ evalInfix store t = .ok (.truth b)) ∧
    evalCondition store t ≠ .error .conditionWithoutTruth := by
  refine ⟨fun v h => ?_, fun v => evalArithmetic_eq_ok_iff, fun b => evalCondition_eq_ok_iff,
    evalCondition_ne_conditionWithoutTruth store t⟩
  obtain ⟨tokens, ht⟩ := exists_tokenize_of_evalInfix h
  refine ⟨tokens, ht, ?_⟩
  have hcount := comparisons_of_evalInfix ht h
  match v with
  | .truth b => exact .inl ⟨hcount, b, rfl⟩
  | .int n => exact .inr ⟨hcount, n, rfl⟩

/-- The texts `(1 2<)` and `1(3)-` are not written as expressions should be. Both have a value, and
it is a truth value and an integer. -/
theorem evalInfix_kind_misshapen :
    (∃ tokens, Token.tokenize ['(', '1', ' ', '2', '<', ')'] = .ok tokens ∧
      (Token.comparisons tokens).length = 1 ∧
      evalCondition .empty ['(', '1', ' ', '2', '<', ')'] = .ok true) ∧
    evalArithmetic .empty ['1', '(', '3', ')', '-'] = .ok (.int (-2)) := by
  have htruth : evalInfix .empty ['(', '1', ' ', '2', '<', ')'] = .ok (.truth true) := by
    decide +kernel
  have hint : evalInfix .empty ['1', '(', '3', ')', '-'] = .ok (.int (-2)) := by decide +kernel
  obtain ⟨hkind, -, hcondition, -⟩ := evalInfix_kind .empty ['(', '1', ' ', '2', '<', ')']
  obtain ⟨-, harithmetic, -, -⟩ := evalInfix_kind .empty ['1', '(', '3', ')', '-']
  refine ⟨?_, (harithmetic _).mpr ⟨hint, -2, rfl⟩⟩
  obtain ⟨tokens, ht, ⟨hone, -⟩ | ⟨-, n, hn⟩⟩ := hkind _ htruth
  · exact ⟨tokens, ht, hone, (hcondition true).mpr htruth⟩
  · cases hn

end LineScript
