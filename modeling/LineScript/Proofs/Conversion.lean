import LineScript.Expr.Tree

/-!
# The conversion of a sentence

While a sentence is converted to postfix order, its operators wait on top of whatever waited before
it. The invariant is **relative to the stack below**: after a sentence of some level,

* the operators that still wait for it bind at least as tightly as that level, and
* letting them through completes the listing of its tree behind the output there was before.

That is `Conversion.Took`. It needs that what waited before binds less tightly than the level
(`Level.Yields`), or else the sentence would let that through as well; a minus sign in front of an
operand lets nothing through, so the two tightest levels need nothing. `took_of_sentence` carries
the invariant over the grammar, and `toPostfix_of_sentence` reads it off at the end.
-/

namespace LineScript

/-- How tightly the operators that stand at a level of the grammar bind. -/
def Level.precedence : Level → Nat
  | comparison => 0
  | sum => 1
  | product => 2
  | signed => 3
  | primary => 3

/-- Whether the innermost waiting operator lets a sentence of some level come first. -/
def Level.Yields (level : Level) (stack : List Pending) : Prop :=
  ∀ op, stack.head? = some (.operator op) → level.precedence < 3 →
    op.precedence < level.precedence

namespace Level

theorem precedence_le_tighter (level : Level) : level.precedence ≤ level.tighter.precedence := by
  cases level <;> decide

theorem precedence_ofBinary (op : BinaryOp) : (ofBinary op).precedence = op.precedence := by
  cases op with
  | arithmetic op => cases op <;> rfl
  | comparison op => rfl

theorem precedence_ofBinary_lt (op : BinaryOp) : (ofBinary op).precedence < 3 := by
  cases op with
  | arithmetic op => cases op <;> decide
  | comparison op => exact Nat.zero_lt_succ 2

theorem Yields.tighter {level : Level} {stack : List Pending} (h : level.Yields stack) :
    level.tighter.Yields stack := by
  intro op hop hlt
  have hle := level.precedence_le_tighter
  exact Nat.lt_of_lt_of_le (h op hop (by omega)) hle

theorem yields_paren (level : Level) (stack : List Pending) : level.Yields (.paren :: stack) :=
  fun _ hop => nomatch hop

/-- A binary operator lets its right operand come first. -/
theorem yields_binary (op : BinaryOp) (stack : List Pending) :
    (ofBinary op).tighter.Yields (.operator (.binary op) :: stack) := by
  intro op' hop hlt
  obtain rfl := Pending.operator.inj (Option.some.inj hop)
  cases op with
  | arithmetic op => cases op <;> revert hlt <;> decide
  | comparison op => exact Nat.zero_lt_one

end Level

namespace Conversion

/-! ### Letting operators through -/

theorem release_append {precedence : Nat} {ops : List Operator} {stack : List Pending}
    (hops : ∀ op ∈ ops, precedence ≤ op.precedence)
    (hstack : ∀ op, stack.head? = some (.operator op) → op.precedence < precedence)
    (output : List Item) :
    release precedence (ops.map .operator ++ stack) output =
      (stack, (ops.map .operator).reverse ++ output) := by
  induction ops generalizing output with
  | nil =>
    match stack, hstack with
    | [], _ => rfl
    | .paren :: stack, _ => rfl
    | .operator op :: stack, hstack =>
      have hlt := hstack op rfl
      rw [List.map_nil, List.nil_append, release, if_neg (by omega)]
      rfl
  | cons op ops ih =>
    have hop : precedence ≤ op.precedence := hops op List.mem_cons_self
    rw [List.map_cons, List.cons_append, release, if_pos hop,
      ih fun op' h => hops op' (List.mem_cons_of_mem op h)]
    simp

theorem close_append (ops : List Operator) (stack : List Pending) (output : List Item) :
    close (ops.map .operator ++ .paren :: stack) output =
      .ok (stack, (ops.map .operator).reverse ++ output) := by
  induction ops generalizing output with
  | nil => rfl
  | cons op ops ih =>
    rw [List.map_cons, List.cons_append, close, ih]
    simp

theorem drain_operators (ops : List Operator) (output : List Item) :
    drain (ops.map .operator) output = .ok ((ops.map .operator).reverse ++ output) := by
  induction ops generalizing output with
  | nil => rfl
  | cons op ops ih =>
    rw [List.map_cons, drain, ih]
    simp

/-- The items are written in order once all waiting operators have been let through. -/
theorem finish_of_drain {c : Conversion} {output : List Item}
    (h : drain c.stack c.output = .ok output) (hne : output ≠ []) :
    c.finish = .ok output.reverse := by
  obtain ⟨item, output, rfl⟩ := List.exists_cons_of_ne_nil hne
  rw [finish, h]
  rfl

/-! ### The invariant -/

/-- The conversion `c'` has taken in, since `c`, a sentence that stands for `e` at a level. -/
structure Took (c : Conversion) (level : Level) (e : Expr) (c' : Conversion) : Prop where
  expectOperand : c'.expectOperand = false
  waiting : ∃ ops : List Operator, c'.stack = ops.map .operator ++ c.stack ∧
    (∀ op ∈ ops, level.precedence ≤ op.precedence) ∧
    (ops.map .operator).reverse ++ c'.output = e.listing.reverse ++ c.output

theorem Took.of_tighter {c c' : Conversion} {level : Level} {e : Expr}
    (h : c.Took level.tighter e c') : c.Took level e c' := by
  obtain ⟨hx, ops, hstack, hops, hout⟩ := h
  exact ⟨hx, ops, hstack, fun op hop => Nat.le_trans level.precedence_le_tighter (hops op hop), hout⟩

/-- A binary operator behind its left operand completes that and waits in its place. -/
theorem push_binary {c c₁ : Conversion} {op : BinaryOp} {l : Expr}
    (hyields : (Level.ofBinary op).Yields c.stack) (h : c.Took (Level.ofBinary op) l c₁) :
    c₁.push (.operator (.binary op)) =
      .ok ⟨l.listing.reverse ++ c.output, .operator (.binary op) :: c.stack, true⟩ := by
  obtain ⟨hx, ops, hstack, hops, hout⟩ := h
  have hprec : (Level.ofBinary op).precedence = (Operator.binary op).precedence :=
    Level.precedence_ofBinary op
  have hrelease : release (Operator.binary op).precedence c₁.stack c₁.output =
      (c.stack, l.listing.reverse ++ c.output) := by
    rw [hprec] at hops
    rw [hstack, release_append hops, hout]
    intro op' hop'
    rw [← hprec]
    exact hyields op' hop' (Level.precedence_ofBinary_lt op)
  rw [push, if_neg (by simp [hx]), hrelease]

/-- **The invariant**: a sentence that starts where an operand is expected, over operators that
yield to it, is taken in. -/
theorem took_of_sentence {level : Level} {tokens : List Token} {e : Expr}
    (h : Sentence level tokens e) (c : Conversion) (hx : c.expectOperand = true)
    (hyields : level.Yields c.stack) :
    ∃ c', tokens.foldlM push c = .ok c' ∧ c.Took level e c' := by
  induction h generalizing c with
  | tighter _ ih =>
    obtain ⟨c', hrun, htook⟩ := ih c hx hyields.tighter
    exact ⟨c', hrun, htook.of_tighter⟩
  | @binary op ls rs l r _ _ ihl ihr =>
    obtain ⟨c₁, hleft, htook₁⟩ := ihl c hx hyields
    have hpush := push_binary hyields htook₁
    obtain ⟨c₂, hright, hx₂, ops, hstack, hops, hout⟩ :=
      ihr ⟨l.listing.reverse ++ c.output, .operator (.binary op) :: c.stack, true⟩ rfl
        (Level.yields_binary op c.stack)
    refine ⟨c₂, ?_, hx₂, ops ++ [.binary op], ?_, ?_, ?_⟩
    · rw [List.foldlM_append, hleft]
      show (c₁.push _ >>= fun c => rs.foldlM push c) = _
      rw [hpush]
      exact hright
    · simpa using hstack
    · -- the operators of the right operand bind tighter than its level, the new one exactly so
      intro op' hop'
      rcases List.mem_append.mp hop' with hop' | hop'
      · exact Nat.le_trans (Level.precedence_le_tighter _) (hops op' hop')
      · obtain rfl := List.mem_singleton.mp hop'
        exact Nat.le_of_eq (Level.precedence_ofBinary op)
    · rw [List.map_append, List.reverse_append, List.append_assoc, hout]
      simp [Expr.listing]
  | @negate tokens e _ ih =>
    -- the sign waits without letting anything through, so nothing is asked of the stack below
    obtain ⟨c₁, hrun, hx₁, ops, hstack, hops, hout⟩ :=
      ih ⟨c.output, .operator .negate :: c.stack, true⟩ rfl
        fun _ _ hlt => absurd hlt (Nat.lt_irrefl 3)
    refine ⟨c₁, ?_, hx₁, ops ++ [.negate], ?_, ?_, ?_⟩
    · rw [List.foldlM_cons, push, if_pos ⟨rfl, hx⟩, hx]
      exact hrun
    · simpa using hstack
    · intro op' hop'
      rcases List.mem_append.mp hop' with hop' | hop'
      · exact hops op' hop'
      · obtain rfl := List.mem_singleton.mp hop'
        exact Nat.le_refl 3
    · rw [List.map_append, List.reverse_append, List.append_assoc, hout]
      simp [Expr.listing]
  | operand _ => exact ⟨_, rfl, rfl, [], rfl, List.forall_mem_nil _, rfl⟩
  | @parens tokens e _ ih =>
    -- the parenthesis shields the stack below, and closing it leaves no operator waiting
    obtain ⟨c₁, hrun, -, ops, hstack, -, hout⟩ :=
      ih ⟨c.output, .paren :: c.stack, true⟩ rfl (Level.yields_paren _ c.stack)
    refine ⟨⟨e.listing.reverse ++ c.output, c.stack, false⟩, ?_, rfl, [], rfl,
      List.forall_mem_nil _, rfl⟩
    rw [List.cons_append, List.foldlM_cons]
    show (tokens ++ [Token.rightParen]).foldlM push ⟨c.output, .paren :: c.stack, true⟩ = _
    rw [List.foldlM_append, hrun]
    show (c₁.push .rightParen >>= pure) = _
    rw [push, hstack, close_append, hout]
    rfl

end Conversion

theorem Expr.listing_ne_nil (e : Expr) : e.listing ≠ [] := by
  cases e <;> simp [Expr.listing]

/-- The postfix order of a sentence is the listing of its tree. -/
theorem toPostfix_of_sentence {tokens : List Token} {e : Expr}
    (h : Sentence .comparison tokens e) : toPostfix tokens = .ok e.listing := by
  obtain ⟨c, hrun, -, ops, hstack, -, hout⟩ :=
    Conversion.took_of_sentence h {} rfl fun _ hop => nomatch hop
  rw [List.append_nil] at hstack hout
  have hdrain : Conversion.drain c.stack c.output = .ok e.listing.reverse := by
    rw [hstack, Conversion.drain_operators, hout]
  have hne : e.listing.reverse ≠ [] := fun h => e.listing_ne_nil (List.reverse_eq_nil_iff.mp h)
  have hfinish := Conversion.finish_of_drain hdrain hne
  rw [List.reverse_reverse] at hfinish
  rw [toPostfix, hrun]
  exact hfinish

end LineScript
