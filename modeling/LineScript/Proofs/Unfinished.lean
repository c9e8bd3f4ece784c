import LineScript.Proofs.Conversion

/-!
# Unfinished sentences

The grammar of infix expressions builds a sentence from its parts. Here it is read from left to
right, one token at a time, with some left parentheses still open:

* after an operand there is a comparison-level sentence behind the last open parenthesis, and this
  stays so when an operator and another operand are added (`Holding`);
* elsewhere any operand can come next (`Waiting`).

What an open parenthesis interrupts is itself a place where an operand can come, so both are defined
by recursion on the number of open parentheses. `Waiting` asks for the tightest level a minus sign
belongs to; that the operators already there regroup around what follows is `Sentence.snoc_binary`.
-/

namespace LineScript

namespace Level

/-- A level that is not tighter than an operator and not its own is looser than it. -/
theorem precedence_tighter_le {level : Level} {op : BinaryOp}
    (hle : level.precedence ≤ op.precedence) (hne : level ≠ ofBinary op) :
    level.tighter.precedence ≤ op.precedence := by
  cases op with
  | arithmetic op => cases op <;> cases level <;> revert hle hne <;> decide
  | comparison op =>
    cases level with
    | comparison => exact absurd rfl hne
    | _ => exact absurd hle (Nat.not_succ_le_zero _)

end Level

namespace Sentence

/-- What can be read as a signed operand can be read on the right of any operator. -/
theorem right_of_signed {tokens : List Token} {e : Expr} (h : Sentence .signed tokens e)
    (op : BinaryOp) : Sentence (Level.ofBinary op).tighter tokens e := by
  have hproduct : Sentence .product tokens e := .tighter h
  cases op with
  | arithmetic op =>
    cases op with
    | add => exact hproduct
    | subtract => exact hproduct
    | multiply => exact h
    | divide => exact h
  | comparison op => exact .tighter hproduct

/-- An operator and its right operand can be added to a sentence of its own level or a looser one,
however the operators of the sentence bind. -/
theorem snoc_binary {level : Level} {ls rs : List Token} {l r : Expr} {op : BinaryOp}
    (hl : Sentence level ls l) (hr : Sentence .signed rs r)
    (hle : level.precedence ≤ op.precedence) :
    ∃ e, Sentence level (ls ++ .operator (.binary op) :: rs) e := by
  -- The operator goes down the right edge of the sentence until it meets its own level.
  have hlt : op.precedence < 3 := Level.precedence_ofBinary op ▸ Level.precedence_ofBinary_lt op
  induction hl with
  | @tighter level tokens e h ih =>
    by_cases hlevel : level = Level.ofBinary op
    · subst hlevel
      exact ⟨_, .binary (.tighter h) (hr.right_of_signed op)⟩
    · obtain ⟨e', he'⟩ := ih (Level.precedence_tighter_le hle hlevel)
      exact ⟨e', .tighter he'⟩
  | @binary op' ls' rs' l' r' h h' _ ih =>
    by_cases hlevel : Level.ofBinary op' = Level.ofBinary op
    · have hleft := Sentence.binary h h'
      rw [hlevel] at hleft ⊢
      exact ⟨_, .binary hleft (hr.right_of_signed op)⟩
    · obtain ⟨e', he'⟩ := ih (Level.precedence_tighter_le hle hlevel)
      refine ⟨.binary op' l' e', ?_⟩
      rw [List.append_assoc, List.cons_append]
      exact .binary h he'
  | negate _ _ => exact absurd hle (Nat.not_le.mpr hlt)
  | operand _ => exact absurd hle (Nat.not_le.mpr hlt)
  | parens _ _ => exact absurd hle (Nat.not_le.mpr hlt)

end Sentence

/-! ### Reading from left to right -/

/-- The tokens end with an operand, and would be a sentence if the open parentheses were closed. -/
def Holding : Nat → List Token → Prop
  | 0, tokens => ∃ e, Sentence .comparison tokens e
  | opened + 1, tokens =>
    ∃ before inside e, tokens = before ++ .leftParen :: inside ∧ Sentence .comparison inside e ∧
      ∀ more e', Sentence .signed more e' → Holding opened (before ++ more)

/-- Any operand can come behind the tokens. -/
def Waiting (opened : Nat) (tokens : List Token) : Prop :=
  ∀ more e, Sentence .signed more e → Holding opened (tokens ++ more)

theorem waiting_nil : Waiting 0 [] :=
  fun _ e h => ⟨e, .tighter (.tighter (.tighter h))⟩

variable {opened : Nat} {tokens : List Token}

theorem Waiting.leftParen (h : Waiting opened tokens) :
    Waiting (opened + 1) (tokens ++ [.leftParen]) := by
  intro more e hmore
  refine ⟨tokens, more, e, ?_, .tighter (.tighter (.tighter hmore)), h⟩
  rw [List.append_assoc, List.singleton_append]

theorem Waiting.minus (h : Waiting opened tokens) :
    Waiting opened (tokens ++ [.operator (.binary (.arithmetic .subtract))]) := by
  intro more e hmore
  rw [List.append_assoc, List.singleton_append]
  exact h _ _ (.negate hmore)

theorem Waiting.operand {t : Text} (h : Waiting opened tokens) (ht : isOperandText t) :
    Holding opened (tokens ++ [.operand t]) :=
  h _ _ (.tighter (.operand ht))

theorem Holding.binary (h : Holding opened tokens) (op : BinaryOp) :
    Waiting opened (tokens ++ [.operator (.binary op)]) := by
  intro more e hmore
  rw [List.append_assoc, List.singleton_append]
  have hloosest : Level.comparison.precedence ≤ op.precedence := Nat.zero_le _
  cases opened with
  | zero =>
    obtain ⟨l, hl⟩ := h
    exact hl.snoc_binary hmore hloosest
  | succ opened =>
    obtain ⟨before, inside, l, rfl, hl, hbefore⟩ := h
    obtain ⟨e', he'⟩ := hl.snoc_binary hmore hloosest
    exact ⟨before, _, e', by rw [List.append_assoc, List.cons_append], he', hbefore⟩

theorem Holding.rightParen (h : Holding (opened + 1) tokens) :
    Holding opened (tokens ++ [.rightParen]) := by
  obtain ⟨before, inside, e, rfl, hinside, hbefore⟩ := h
  rw [List.append_assoc]
  exact hbefore _ e (.tighter (.parens hinside))

end LineScript
