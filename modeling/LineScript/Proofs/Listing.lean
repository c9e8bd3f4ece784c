import LineScript.Proofs.Acceptance
import LineScript.Proofs.Spelling
import LineScript.Proofs.Wording

/-!
# Which lists are in postfix order

The evaluation of items on a stack knows nothing about trees, and it is run on any list of texts.
Here it is compared with trees in both directions: a list has a value exactly if it is the listing
of a tree whose operands stand for integers and which has this value, and there is only one such
tree. What a tree has for its value is said by `Expr.HasValue`, from the operands up, what an
operand stands for by `StandsFor` and what an operator stands for by `BinaryOp.meaning`, without
regard to how any of these is computed.

That a list with a value is a listing is read off the stack. Every value on it comes from a tree,
and the items taken so far are the listings of these trees, the topmost last
(`Item.exists_trees_of_eval` for one item). That there is only one tree is a property of listings
alone: a list ends with the listing of at most one tree (`Expr.listing_append_inj`), since the last
item tells how many parts there are, and the parts are found from the right.
-/

namespace LineScript

open Text

/-! ### What operands stand for -/

/-- A text is written with decimal digits of any script, the most significant first. -/
def WrittenWith (t : Text) (ds : List Nat) : Prop :=
  List.Forall₂ (fun c d => digitValue? c = some d) t ds

/-- An operand stands for an integer: decimal digits, within the digit limit, for the number they
write in base ten, and the letter of a variable for the value it has. -/
inductive StandsFor (store : Store) : Text → Int → Prop where
  | number {t : Text} {ds : List Nat} : t ≠ [] → t.length ≤ Numeral.digitLimit →
      WrittenWith t ds → StandsFor store t (Nat.ofDigits 10 ds.reverse : Nat)
  | letter {v : Variable} {n : Int} : store.get? v = some n → StandsFor store [v.letter] n

/-- Reading digits behind a number `n` shifts it and adds what they write; nothing but digits can be
read. -/
theorem foldlM_digitValue?_eq_some_iff {t : Text} {n k : Nat} :
    t.foldlM (fun n c => (digitValue? c).map (10 * n + ·)) n = some k ↔
      ∃ ds, WrittenWith t ds ∧ k = n * 10 ^ ds.length + Nat.ofDigits 10 ds.reverse := by
  induction t generalizing n with
  | nil =>
    have hnil (ds : List Nat) : WrittenWith [] ds ↔ ds = [] := List.forall₂_nil_left_iff
    simp only [List.foldlM_nil, hnil, exists_eq_left]
    simp [eq_comm]
  | cons c t ih =>
    have hcons (ds : List Nat) : WrittenWith (c :: t) ds ↔
        ∃ d ds', digitValue? c = some d ∧ WrittenWith t ds' ∧ ds = d :: ds' :=
      List.forall₂_cons_left_iff
    have hshift (d : Nat) (ds : List Nat) :
        (10 * n + d) * 10 ^ ds.length + Nat.ofDigits 10 ds.reverse =
          n * 10 ^ (d :: ds).length + Nat.ofDigits 10 (d :: ds).reverse := by
      rw [List.reverse_cons, Nat.ofDigits_append, Nat.ofDigits_singleton, List.length_reverse,
        List.length_cons]
      ring
    rw [List.foldlM_cons]
    simp only [hcons]
    constructor
    · intro h
      obtain ⟨m, hm, h⟩ := Option.bind_eq_some_iff.mp h
      obtain ⟨d, hd, rfl⟩ := Option.map_eq_some_iff.mp hm
      obtain ⟨ds, hds, rfl⟩ := ih.mp h
      exact ⟨d :: ds, ⟨d, ds, hd, hds, rfl⟩, hshift d ds⟩
    · rintro ⟨_, ⟨d, ds, hd, hds, rfl⟩, rfl⟩
      rw [hd]
      exact ih.mpr ⟨ds, hds, (hshift d ds).symm⟩

theorem literal?_eq_some_iff {t : Text} {k : Nat} :
    Numeral.literal? t = some k ↔ t.length ≤ Numeral.digitLimit ∧
      ∃ ds, WrittenWith t ds ∧ k = Nat.ofDigits 10 ds.reverse := by
  rw [Numeral.literal?, Numeral.digitsValue?]
  split_ifs with hlen
  · simp only [foldlM_digitValue?_eq_some_iff, Nat.zero_mul, Nat.zero_add, hlen, true_and]
  · simp only [hlen, false_and]

/-- Decimal digits make a number word. -/
theorem WrittenWith.isNumberWord {t : Text} {ds : List Nat} (h : WrittenWith t ds) (hne : t ≠ []) :
    isNumberWord t = true := by
  have hall : ∀ c ∈ t, isDigitLike c = true := by
    clear hne
    induction h with
    | nil => exact List.forall_mem_nil _
    | cons hd _ ih => exact List.forall_mem_cons.mpr ⟨by simp [isDigitLike, hd], ih⟩
  rw [LineScript.isNumberWord, List.all_eq_true.mpr hall, Bool.and_true, Bool.not_eq_true',
    List.isEmpty_eq_false_iff]
  exact hne

theorem Variable.isNameStart_letter (v : Variable) : isNameStart v.letter = true := by
  revert v
  decide

theorem lookup_eq_ok_iff {store : Store} {t : Text} {n : Int} :
    store.lookup t = .ok n ↔ ∃ v : Variable, t = [v.letter] ∧ store.get? v = some n := by
  constructor
  · intro h
    obtain ⟨v, hv, h⟩ := exists_of_bind_eq_ok h
    refine ⟨v, (Variable.letter_of_resolve hv).symm, ?_⟩
    rw [Store.get] at h
    split at h <;> cases h
    assumption
  · rintro ⟨v, rfl, hv⟩
    rw [Store.lookup, Variable.resolve_letter]
    show store.get v = _
    rw [Store.get, hv]

/-- What stands for an integer is a number word or a name of one character. -/
theorem StandsFor.word {store : Store} {t : Text} {n : Int} (h : StandsFor store t n) :
    isNumberWord t = true ∨ ∃ c, t = [c] ∧ isNameStart c = true := by
  cases h with
  | number hne _ hds => exact .inl (hds.isNumberWord hne)
  | @letter v _ _ => exact .inr ⟨_, rfl, v.isNameStart_letter⟩

/-- An operand has exactly the value of the integer it stands for. -/
theorem evalOperand_eq_ok_iff {store : Store} {t : Text} {n : Int} :
    evalOperand store t = .ok n ↔ StandsFor store t n := by
  constructor
  · intro h
    rw [evalOperand] at h
    split at h
    · rename_i hword
      have hne : t ≠ [] := by
        rintro rfl
        cases hword
      split at h <;> cases h
      rename_i k hk
      obtain ⟨hlen, ds, hds, rfl⟩ := literal?_eq_some_iff.mp hk
      exact .number hne hlen hds
    · split at h
      · obtain ⟨v, rfl, hv⟩ := lookup_eq_ok_iff.mp h
        exact .letter hv
      · cases h
  · intro h
    cases h with
    | @number _ ds hne hlen hds =>
      have hk : Numeral.literal? t = some (Nat.ofDigits 10 ds.reverse) :=
        literal?_eq_some_iff.mpr ⟨hlen, ds, hds, rfl⟩
      rw [evalOperand, hds.isNumberWord hne, if_pos rfl, hk]
    | @letter v _ hv =>
      have hstart := v.isNameStart_letter
      rw [evalOperand_of_isNameStart hstart,
        ← lookup_eq_operandMeaning (by simp [isPlainDigit_of_isNameStart hstart])]
      exact lookup_eq_ok_iff.mpr ⟨v, rfl, hv⟩

/-! ### What trees have for their value -/

namespace Expr

/-- The operands of a tree, from left to right. -/
def leaves : Expr → List Text
  | operand t => [t]
  | negate e => e.leaves
  | binary _ left right => left.leaves ++ right.leaves

/-- The postfix order of a tree, as texts. -/
def texts (e : Expr) : List Text := e.listing.map Item.text

/-- A tree has a value: operands stand for an integer, and an operator has a meaning for the
integers that its parts have. -/
inductive HasValue (store : Store) : Expr → Value → Prop where
  | operand {t : Text} {n : Int} : StandsFor store t n → HasValue store (.operand t) (.int n)
  | negate {e : Expr} {n : Int} : HasValue store e (.int n) → HasValue store (.negate e) (.int (-n))
  | binary {op : BinaryOp} {left right : Expr} {m n : Int} {v : Value} :
      HasValue store left (.int m) → HasValue store right (.int n) → op.meaning m n = .ok v →
      HasValue store (.binary op left right) v

variable {store : Store}

theorem HasValue.leaves {e : Expr} {v : Value} (h : e.HasValue store v) :
    ∀ t ∈ e.leaves, ∃ n, StandsFor store t n := by
  induction h with
  | operand ht => exact List.forall_mem_singleton.mpr ⟨_, ht⟩
  | negate _ ih => exact ih
  | binary _ _ _ ihl ihr => exact List.forall_mem_append.mpr ⟨ihl, ihr⟩

/-- Direct evaluation of a tree comes to the value it has. -/
theorem HasValue.eval {e : Expr} {v : Value} (h : e.HasValue store v) : e.eval store = .ok v := by
  induction h with
  | operand ht =>
    rw [Expr.eval, evalOperand_eq_ok_iff.mpr ht]
    rfl
  | negate _ ih =>
    rw [Expr.eval, ih]
    rfl
  | binary _ _ hv ihl ihr =>
    rw [Expr.eval, ihl, ihr]
    exact (BinaryOp.apply_eq_meaning _ _ _).trans hv

/-! ### Listings -/

/-- **A list ends with the listing of at most one tree.** -/
theorem listing_append_inj {e e' : Expr} {before before' : List Item}
    (h : before ++ e.listing = before' ++ e'.listing) : before = before' ∧ e = e' := by
  -- The last item tells which kind of tree it is; what is in front of it ends with the last part.
  induction e generalizing e' before before' with
  | operand t =>
    cases e' with
    | operand t' => simpa [listing] using h
    | negate e' => simp [listing, ← List.append_assoc] at h
    | binary op' left' right' => simp [listing, ← List.append_assoc] at h
  | negate e ih =>
    cases e' with
    | operand t' => simp [listing, ← List.append_assoc] at h
    | negate e' =>
      have hparts : before ++ e.listing = before' ++ e'.listing := by
        simpa [listing, ← List.append_assoc] using h
      obtain ⟨hbefore, rfl⟩ := ih hparts
      exact ⟨hbefore, rfl⟩
    | binary op' left' right' => simp [listing, ← List.append_assoc] at h
  | binary op left right ihl ihr =>
    cases e' with
    | operand t' => simp [listing, ← List.append_assoc] at h
    | negate e' => simp [listing, ← List.append_assoc] at h
    | binary op' left' right' =>
      obtain ⟨hparts, rfl⟩ : before ++ left.listing ++ right.listing =
          before' ++ left'.listing ++ right'.listing ∧ op = op' := by
        simpa [listing, ← List.append_assoc] using h
      obtain ⟨hleft, rfl⟩ := ihr hparts
      obtain ⟨hbefore, rfl⟩ := ihl hleft
      exact ⟨hbefore, rfl⟩

/-- A tree without an operand that is spelled like an operator is listed by the items that its texts
stand for. -/
theorem map_ofText_texts {e : Expr} (h : ∀ t ∈ e.leaves, Operator.ofText? t = none) :
    e.texts.map Item.ofText = e.listing := by
  induction e with
  | operand t =>
    have ht : Item.ofText t = .operand t := Item.ofText_of_eq_none (h t List.mem_cons_self)
    simp [texts, listing, Item.text, ht]
  | negate e ih =>
    have he := ih h
    simp_all [texts, listing, Item.text]
  | binary op left right ihl ihr =>
    obtain ⟨hl, hr⟩ := List.forall_mem_append.mp h
    have hleft := ihl hl
    have hright := ihr hr
    simp_all [texts, listing, Item.text]

end Expr

theorem ofText?_of_standsFor {store : Store} {ts : List Text}
    (h : ∀ t ∈ ts, ∃ n, StandsFor store t n) : ∀ t ∈ ts, Operator.ofText? t = none := by
  intro t ht
  obtain ⟨n, hn⟩ := h t ht
  exact Operator.ofText?_eq_none hn.word

/-! ### The trees on the stack -/

/-- The listings of trees, the first one last. -/
def listings (es : List Expr) : List Item := es.reverse.flatMap Expr.listing

theorem listings_cons (e : Expr) (es : List Expr) :
    listings (e :: es) = listings es ++ e.listing := by
  simp [listings]

namespace Item

variable {store : Store} {stack stack' : List Value} {es : List Expr}

theorem eq_cons_of_popOperand {op : Operator} {n : Int}
    (h : popOperand op stack = .ok (n, stack')) : stack = .int n :: stack' := by
  unfold popOperand at h
  split at h <;> cases h
  rfl

/-- If the values on the stack are those of some trees, then so are the values after one more item,
and the new trees are listed with this item behind the old ones. -/
theorem exists_trees_of_eval {item : Item} (hes : List.Forall₂ (Expr.HasValue store) es stack)
    (h : item.eval store stack = .ok stack') :
    ∃ es', List.Forall₂ (Expr.HasValue store) es' stack' ∧
      listings es' = listings es ++ [item] := by
  match item with
  | .operand t =>
    obtain ⟨n, hn, h⟩ := exists_of_bind_eq_ok h
    obtain rfl := Except.ok.inj h
    exact ⟨.operand t :: es, .cons (.operand (evalOperand_eq_ok_iff.mp hn)) hes,
      listings_cons _ _⟩
  | .operator .negate =>
    obtain ⟨⟨n, rest⟩, hpop, h⟩ := exists_of_bind_eq_ok h
    obtain rfl := Except.ok.inj h
    obtain rfl := eq_cons_of_popOperand hpop
    obtain ⟨e, es, he, hbelow, rfl⟩ := List.forall₂_cons_right_iff.mp hes
    refine ⟨.negate e :: es, .cons (.negate he) hbelow, ?_⟩
    simp [listings_cons, Expr.listing]
  | .operator (.binary op) =>
    obtain ⟨⟨right, rest⟩, hright, h⟩ := exists_of_bind_eq_ok h
    obtain ⟨⟨left, rest'⟩, hleft, h⟩ := exists_of_bind_eq_ok h
    obtain ⟨v, hv, h⟩ := exists_of_bind_eq_ok h
    obtain rfl := Except.ok.inj h
    obtain rfl := eq_cons_of_popOperand hright
    obtain rfl := eq_cons_of_popOperand hleft
    obtain ⟨r, es, hr, hleft, rfl⟩ := List.forall₂_cons_right_iff.mp hes
    obtain ⟨l, es, hl, hbelow, rfl⟩ := List.forall₂_cons_right_iff.mp hleft
    have hmeaning : op.meaning left right = .ok v := (op.apply_eq_meaning left right).symm.trans hv
    refine ⟨.binary op l r :: es, .cons (.binary hl hr hmeaning) hbelow, ?_⟩
    simp [listings_cons, Expr.listing]

theorem exists_trees_of_foldlM {items : List Item}
    (hes : List.Forall₂ (Expr.HasValue store) es stack)
    (h : items.foldlM (Item.eval store) stack = .ok stack') :
    ∃ es', List.Forall₂ (Expr.HasValue store) es' stack' ∧ listings es' = listings es ++ items := by
  induction items generalizing stack es with
  | nil =>
    obtain rfl := Except.ok.inj h
    exact ⟨es, hes, (List.append_nil _).symm⟩
  | cons item items ih =>
    rw [List.foldlM_cons] at h
    obtain ⟨stack₁, hitem, hrest⟩ := exists_of_bind_eq_ok h
    obtain ⟨es₁, hes₁, hlist₁⟩ := exists_trees_of_eval hes hitem
    obtain ⟨es₂, hes₂, hlist₂⟩ := ih hes₁ hrest
    refine ⟨es₂, hes₂, ?_⟩
    rw [hlist₂, hlist₁, List.append_assoc, List.singleton_append]

end Item

/-- Items have a value exactly if they are the listing of a tree that has it. -/
theorem evalPostfix_eq_ok_iff {store : Store} {items : List Item} {v : Value} :
    evalPostfix store items = .ok v ↔ ∃ e : Expr, e.listing = items ∧ e.HasValue store v := by
  constructor
  · intro h
    obtain ⟨stack, hstack, h⟩ := exists_of_bind_eq_ok h
    obtain ⟨es, hes, hlist⟩ := Item.exists_trees_of_foldlM .nil hstack
    match stack, h with
    | [value], h =>
      obtain rfl := Except.ok.inj h
      match es, hes with
      | [e], .cons he .nil =>
        refine ⟨e, ?_, he⟩
        simpa [listings] using hlist
  · rintro ⟨e, rfl, he⟩
    rw [evalPostfix_listing, he.eval]

/-- The kinds of error that can be found in the evaluation of an expression. -/
theorem Fault.category_of_evaluation {f : Fault} (h : f.pass? = some .evaluation) :
    f.category ∈ [.invalidSyntax, .operator, .undefinedVariable, .invalidIdentifier,
      .arithmetic] := by
  cases f <;> cases h
  all_goals simp [category]

/-- **A list of texts has a value exactly if it is the postfix order of a tree that has it.** There
is at most one tree, among all those whose operands stand for integers, that has the list for its
postfix order, and what has no value fails with an error of one of five kinds. -/
theorem evalPostfix_iff_tree (store : Store) (ts : List Text) :
    (∀ v, evalPostfix store (ts.map Item.ofText) = .ok v ↔
      ∃ e : Expr, e.texts = ts ∧ e.HasValue store v) ∧
    (∀ e e' : Expr, (∀ t ∈ e.leaves, ∃ n, StandsFor store t n) →
      (∀ t ∈ e'.leaves, ∃ n, StandsFor store t n) → e.texts = ts → e'.texts = ts → e = e') ∧
    ((¬∃ (e : Expr) (v : Value), e.texts = ts ∧ e.HasValue store v) →
      ∃ f, evalPostfix store (ts.map Item.ofText) = .error f ∧
        f.category ∈ [.invalidSyntax, .operator, .undefinedVariable, .invalidIdentifier,
          .arithmetic]) := by
  have hiff (v : Value) : evalPostfix store (ts.map Item.ofText) = .ok v ↔
      ∃ e : Expr, e.texts = ts ∧ e.HasValue store v := by
    rw [evalPostfix_eq_ok_iff]
    constructor
    · rintro ⟨e, he, hv⟩
      refine ⟨e, ?_, hv⟩
      simp [Expr.texts, he, Function.comp_def]
    · rintro ⟨e, rfl, hv⟩
      exact ⟨e, (Expr.map_ofText_texts (ofText?_of_standsFor hv.leaves)).symm, hv⟩
  refine ⟨hiff, fun e e' he he' hts hts' => ?_, fun hnone => ?_⟩
  · have hlisting : [] ++ e.listing = [] ++ e'.listing := by
      rw [← Expr.map_ofText_texts (ofText?_of_standsFor he),
        ← Expr.map_ofText_texts (ofText?_of_standsFor he'), hts, hts']
    exact (Expr.listing_append_inj hlisting).2
  · cases h : evalPostfix store (ts.map Item.ofText) with
    | ok v =>
      obtain ⟨e, he⟩ := (hiff v).mp h
      exact absurd ⟨e, v, he⟩ hnone
    | error f =>
      have harises := evalPostfix_failsOnly store (ts.map Item.ofText) f h
      exact ⟨f, rfl, f.category_of_evaluation harises.2⟩

/-- The texts `a ٣ neg -` are the postfix order of the tree for `a - -٣`, whose digit is one of
another script, and of no other tree. An empty text is no operand, so nothing has it in its postfix
order. -/
theorem evalPostfix_iff_tree_minus :
    let store := Store.empty.set 0 5
    let ts : List Text := [['a'], ['٣'], ['n', 'e', 'g'], ['-']]
    evalPostfix store (ts.map Item.ofText) = .ok (.int 8) ∧
      (∀ e : Expr, (∀ t ∈ e.leaves, ∃ n, StandsFor store t n) → e.texts = ts →
        e = .binary (.arithmetic .subtract) (.operand ['a']) (.negate (.operand ['٣']))) ∧
      ∃ f, evalPostfix store [Item.ofText [], Item.ofText ['1']] = .error f ∧
        f.category ∈ [.invalidSyntax, .operator, .undefinedVariable, .invalidIdentifier,
          .arithmetic] := by
  intro store ts
  have hletter : StandsFor store ['a'] 5 := evalOperand_eq_ok_iff.mp (by decide +kernel)
  have hdigit : StandsFor store ['٣'] 3 := evalOperand_eq_ok_iff.mp (by decide +kernel)
  obtain ⟨hvalue, hunique, -⟩ := evalPostfix_iff_tree store ts
  obtain ⟨hempty, -, hfails⟩ := evalPostfix_iff_tree store [[], ['1']]
  refine ⟨(hvalue _).mpr ?_, fun e he hts => hunique e _ he ?_ hts rfl, hfails ?_⟩
  · exact ⟨.binary (.arithmetic .subtract) (.operand ['a']) (.negate (.operand ['٣'])), rfl,
      .binary (.operand hletter) (.negate (.operand hdigit)) rfl⟩
  · exact List.forall_mem_cons.mpr ⟨⟨5, hletter⟩, List.forall_mem_singleton.mpr ⟨3, hdigit⟩⟩
  · rintro ⟨e, v, he⟩
    have hfailed : evalPostfix store ([[], ['1']].map Item.ofText) =
        .error (.unknownOperator []) := by decide +kernel
    exact nomatch hfailed.symm.trans ((hempty v).mpr ⟨e, he⟩)

end LineScript
