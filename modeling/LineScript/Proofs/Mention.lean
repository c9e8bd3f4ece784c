import LineScript.Proofs.Lockstep
import LineScript.Proofs.ValueKind
import LineScript.Proofs.Verdict

/-!
# The variables a program mentions

A run of a program depends on the variables whose letters occur in its text, and on no others, and
it sets no others. The first half follows the letters of an operand back to where they come from:
the conversion to postfix order makes up no operands, the lexer takes them from the text of the
expression, and that is a part of the line. So an expression has the same value in two stores that
agree on the letters in its text (`evalInfix_of_agree`), wherever it stands.

The second half is about runs. `Store.blend` takes the variables that a program mentions from one
store and all others from another, and it can be carried out before a run as well as after it
(`interpret_blend`).
-/

namespace LineScript

open Text

/-! ### Where operands come from -/

namespace Token

variable {c : Char} {rest rest' t w : Text} {token : Token} {tokens : List Token}

theorem subset_of_scanSign (h : scanSign c rest = .ok (token, rest')) :
    token ≠ .operand w ∧ rest' ⊆ rest := by
  unfold scanSign at h
  split at h
  · rename_i tail token' hsign
    cases h
    refine ⟨?_, List.subset_cons_self _ _⟩
    rintro rfl
    unfold ofSignEqual? at hsign
    split at hsign <;> cases hsign
  · cases hsign : ofSign? c with
    | none =>
      rw [hsign] at h
      cases h
    | some token' =>
      rw [hsign] at h
      cases h
      refine ⟨?_, List.Subset.refl _⟩
      rintro rfl
      unfold ofSign? at hsign
      split at hsign <;> cases hsign

/-- An operand is a part of the text at whose start it is read. -/
theorem subset_of_scan (h : scan c rest = .ok (token, rest')) :
    (token = .operand w → w ⊆ c :: rest) ∧ rest' ⊆ rest := by
  unfold scan at h
  split at h
  · cases h
    refine ⟨?_, (List.dropWhile_sublist _).subset⟩
    rintro ⟨⟩
    exact List.cons_subset_cons c (List.takeWhile_sublist _).subset
  · split at h
    · split at h <;> cases h
      refine ⟨?_, List.Subset.refl _⟩
      rintro ⟨⟩
      exact List.cons_subset_cons c (List.nil_subset _)
    · obtain ⟨hsign, hrest⟩ := subset_of_scanSign (w := w) h
      exact ⟨fun hoperand => absurd hoperand hsign, hrest⟩

theorem subset_of_tokenize (h : tokenize t = .ok tokens) (hw : .operand w ∈ tokens) : w ⊆ t := by
  fun_induction tokenize t generalizing tokens with
  | case1 t htrim =>
    cases h
    cases hw
  | case2 t c rest htrim fault hscan => cases h
  | case3 t c rest htrim token rest' hscan ih =>
    have htail : c :: rest ⊆ t := by
      rw [← htrim]
      exact (List.dropWhile_sublist _).subset
    obtain ⟨hfirst, hrest⟩ := subset_of_scan (w := w) hscan
    cases htokens : tokenize rest' with
    | error fault =>
      rw [htokens] at h
      cases h
    | ok tokens' =>
      rw [htokens] at h
      cases h
      rcases List.mem_cons.mp hw with heq | hlater
      · exact List.Subset.trans (hfirst heq.symm) htail
      · have hrest' : rest' ⊆ c :: rest := List.subset_cons_of_subset c hrest
        exact List.Subset.trans (ih htokens hlater) (List.Subset.trans hrest' htail)

theorem eq_operand_of_item? {expect : Bool} (h : token.item? expect = some (.operand w)) :
    token = .operand w := by
  cases token with
  | operand t =>
    cases h
    rfl
  | operator op =>
    rw [item?] at h
    split at h <;> cases h
  | leftParen => cases h
  | rightParen => cases h

end Token

theorem Conversion.mem_of_foldlM {tokens : List Token} {c c' : Conversion} {w : Text}
    (h : tokens.foldlM push c = .ok c') (hw : .operand w ∈ c'.items) :
    .operand w ∈ c.items ∨ .operand w ∈ tokens := by
  induction tokens generalizing c with
  | nil =>
    cases h
    exact .inl hw
  | cons token tokens ih =>
    rw [List.foldlM_cons] at h
    obtain ⟨c₁, hpush, hrest⟩ := exists_of_bind_eq_ok h
    rcases ih hrest with hmem | hmem
    · have hitems := (pushed hpush).items.mem_iff.mp hmem
      rcases List.mem_append.mp hitems with hnew | hold
      · have htoken := Token.eq_operand_of_item? (Option.mem_toList.mp hnew)
        exact .inr (htoken ▸ List.mem_cons_self)
      · exact .inl hold
    · exact .inr (List.mem_cons_of_mem _ hmem)

/-- The conversion to postfix order makes up no operands. -/
theorem mem_of_toPostfix {tokens : List Token} {items : List Item} {w : Text}
    (h : toPostfix tokens = .ok items) (hw : .operand w ∈ items) : .operand w ∈ tokens := by
  obtain ⟨c, hfold, hfinish⟩ := exists_of_bind_eq_ok h
  have hc := (Conversion.perm_of_finish hfinish).1.mem_iff.mp hw
  exact (Conversion.mem_of_foldlM hfold hc).resolve_left (by simp [Conversion.items])

/-! ### Where expressions come from -/

namespace Statement

theorem suffix_of_afterWord? {word t rest : Text} (h : afterWord? word t = some rest) :
    rest <:+ t := by
  fun_induction afterWord? word t with
  | case1 t =>
    cases h
    exact List.suffix_refl _
  | case2 c word => cases h
  | case3 c word t ih => exact (ih h).trans (List.suffix_cons _ _)
  | case4 c word d t hne => cases h

theorem suffix_of_afterKeyword? {keyword line rest : Text}
    (h : afterKeyword? keyword line = some rest) : rest <:+ line := by
  unfold afterKeyword? at h
  split at h
  · rename_i c tail htail
    split at h <;> cases h
    have hword := suffix_of_afterWord? htail
    exact (List.dropWhile_suffix _).trans ((List.suffix_cons _ _).trans hword)
  · cases h

theorem suffix_of_keywordForm? {keyword line expression : Text}
    (h : keywordForm? keyword line = some expression) : expression <:+ line := by
  obtain ⟨rest, hrest, h⟩ := Option.bind_eq_some_iff.mp h
  obtain ⟨-, ⟨⟩⟩ := Option.ite_none_right_eq_some.mp h
  exact suffix_of_afterKeyword? hrest

/-- What an action reads and sets is written on its line. -/
theorem subset_of_actionOf? {line w : Text} {action : Action} (h : actionOf? line = some action)
    (hw : w ∈ action.expression? ∨ w ∈ action.target?) : w ⊆ line := by
  have hkeyword {keyword e : Text} (he : keywordForm? keyword line = some e)
      (hw : w ∈ some e ∨ w ∈ none) : w ⊆ line := by
    obtain rfl : e = w := by simpa using hw
    exact (suffix_of_keywordForm? he).subset
  simp only [actionOf?, Option.orElse_eq_orElse, Option.orElse_eq_or, Option.or_eq_some_iff,
    Option.map_eq_some_iff] at h
  rcases h with h | ⟨-, ⟨e, he, rfl⟩ | ⟨-, ⟨e, he, rfl⟩ | ⟨-, ⟨e, he, rfl⟩ | ⟨-, h⟩⟩⟩⟩
  · obtain ⟨target, htarget, h⟩ := Option.bind_eq_some_iff.mp h
    obtain ⟨-, ⟨⟩⟩ := Option.ite_none_right_eq_some.mp h
    obtain rfl : target = w := by simpa [Action.expression?, Action.target?] using hw
    exact (suffix_of_afterKeyword? htarget).subset
  · exact hkeyword he hw
  · exact hkeyword he hw
  · exact hkeyword he hw
  · unfold assignmentForm? at h
    split at h
    · rename_i c target rest htarget hrest
      obtain ⟨-, ⟨⟩⟩ := Option.ite_none_right_eq_some.mp h
      have hleft : c :: target ⊆ line := by
        rw [← htarget]
        exact (List.takeWhile_sublist _).subset
      have hright : trimLeft rest ⊆ line := by
        have hsign : '=' :: rest <:+ line := by
          rw [← hrest]
          exact (List.dropWhile_suffix _).trans (List.dropWhile_suffix _)
        exact ((List.dropWhile_suffix _).trans ((List.suffix_cons _ _).trans hsign)).subset
      rcases hw with hw | hw <;> cases hw
      · exact hright
      · exact hleft
    · cases h

theorem subset_of_parse {t w : Text} {statement : Statement} (h : parse t = .ok statement)
    (hw : w ∈ statement.action.expression? ∨ w ∈ statement.action.target?) : w ⊆ t := by
  have htrim : trimRight t ⊆ t := by
    intro c hc
    have hreverse := (List.dropWhile_sublist _).subset (List.mem_reverse.mp hc)
    exact List.mem_reverse.mp hreverse
  unfold parse at h
  dsimp only at h
  split at h
  · rename_i action haction
    cases h
    exact List.Subset.trans (subset_of_actionOf? haction hw) htrim
  · cases h

end Statement

/-! ### Reading variables -/

/-- Two stores agree on the variables whose letters occur in a text. -/
def Store.AgreesOn (store store' : Store) (t : Text) : Prop :=
  ∀ v : Variable, v.letter ∈ t → store.get? v = store'.get? v

section Reading

variable {store store' : Store}

theorem Store.AgreesOn.mono {t w : Text} (h : store.AgreesOn store' t) (hw : w ⊆ t) :
    store.AgreesOn store' w :=
  fun v hv => h v (hw hv)

theorem evalOperand_of_agree {t : Text} (h : store.AgreesOn store' t) :
    evalOperand store t = evalOperand store' t := by
  have hlookup : store.lookup t = store'.lookup t := by
    rw [Store.lookup, Store.lookup]
    cases hv : Variable.resolve t with
    | error f => rfl
    | ok v =>
      have hget : store.get? v = store'.get? v :=
        h v (Variable.letter_of_resolve hv ▸ List.mem_singleton_self _)
      show store.get v = store'.get v
      rw [Store.get, Store.get, hget]
  rw [evalOperand, evalOperand, hlookup]

theorem evalPostfix_of_agree {items : List Item}
    (h : ∀ w, .operand w ∈ items → store.AgreesOn store' w) :
    evalPostfix store items = evalPostfix store' items := by
  have hfold (stack : List Value) :
      items.foldlM (Item.eval store) stack = items.foldlM (Item.eval store') stack := by
    induction items generalizing stack with
    | nil => rfl
    | cons item items ih =>
      have hitem : Item.eval store stack item = Item.eval store' stack item := by
        cases item with
        | operand w =>
          rw [Item.eval, Item.eval, evalOperand_of_agree (h w List.mem_cons_self)]
        | operator op => cases op <;> rfl
      have hrest := ih fun w hw => h w (List.mem_cons_of_mem _ hw)
      simp only [List.foldlM_cons, hitem, hrest]
  rw [evalPostfix, evalPostfix, hfold]

/-- An expression is evaluated by reading the letters in its text. -/
theorem evalInfix_of_agree {t : Text} (h : store.AgreesOn store' t) :
    evalInfix store t = evalInfix store' t := by
  rw [evalInfix, evalInfix]
  cases hitems : infixToPostfix t with
  | error f => rfl
  | ok items =>
    obtain ⟨tokens, htokens, hpostfix⟩ := exists_of_bind_eq_ok hitems
    refine evalPostfix_of_agree fun w hw => h.mono ?_
    exact Token.subset_of_tokenize htokens (mem_of_toPostfix hpostfix hw)

theorem evalArithmetic_of_agree {t : Text} (h : store.AgreesOn store' t) :
    evalArithmetic store t = evalArithmetic store' t := by
  cases htokens : Token.tokenize t with
  | error f => rw [evalArithmetic, evalArithmetic, htokens]; rfl
  | ok tokens =>
    rw [evalArithmetic_of_tokenize htokens, evalArithmetic_of_tokenize htokens,
      evalInfix_of_agree h]

theorem evalCondition_of_agree {t : Text} (h : store.AgreesOn store' t) :
    evalCondition store t = evalCondition store' t := by
  cases htokens : Token.tokenize t with
  | error f => rw [evalCondition, evalCondition, htokens]; rfl
  | ok tokens =>
    rw [evalCondition_of_tokenize htokens, evalCondition_of_tokenize htokens,
      evalInfix_of_agree h]

end Reading

/-! ### What a program mentions -/

namespace Text

theorem flatten_consHead (c : Char) (ps : List Text) :
    (consHead c ps).flatten = c :: ps.flatten := by
  cases ps <;> rfl

/-- The pieces between line ends are parts of the text. -/
theorem flatten_pieces_sublist (t : Text) : (pieces t).flatten.Sublist t := by
  fun_induction pieces t with
  | case1 => exact .slnil
  | case2 rest ih => exact (ih.cons _).cons _
  | case3 rest _ ih => exact ih.cons _
  | case4 rest ih => exact ih.cons _
  | case5 c rest _ _ _ ih =>
    rw [flatten_consHead]
    exact ih.cons_cons c

end Text

/-- The letter of a variable occurs in the text of a program. -/
def Program.Mentions (p : Program) (v : Variable) : Prop := v.letter ∈ p.source

instance (p : Program) : DecidablePred p.Mentions := fun v =>
  inferInstanceAs (Decidable (v.letter ∈ p.source))

theorem Program.subset_source {p : Program} {i : Nat} {line : Text} (h : p.line? i = some line) :
    line ⊆ p.source := by
  rw [line?, p.lines_eq, List.getElem?_toArray] at h
  have hpiece := (dropEmptyLast_sublist _).subset (List.mem_of_getElem? h)
  intro c hc
  exact (flatten_pieces_sublist _).subset (List.mem_flatten_of_mem hpiece hc)

/-! ### Blending stores -/

namespace Store

variable (kept : Variable → Prop) [DecidablePred kept]

/-- The store that takes some variables from `store` and all others from `base`. -/
def blend (base store : Store) : Store :=
  ofFn fun v => if kept v then store.get? v else base.get? v

theorem get?_blend (base store : Store) (v : Variable) :
    (blend kept base store).get? v = if kept v then store.get? v else base.get? v :=
  get?_ofFn _ v

/-- Nothing changes if the stores agree on the variables that are taken from the first. -/
theorem blend_of_agree {base store : Store} (h : ∀ v, kept v → store.get? v = base.get? v) :
    blend kept base store = base := by
  ext1 v
  rw [get?_blend]
  split_ifs with hv
  · exact h v hv
  · rfl

theorem blend_set {v : Variable} (hv : kept v) (base store : Store) (value : Int) :
    blend kept base (store.set v value) = (blend kept base store).set v value := by
  ext1 w
  rw [get?_blend, get?_set, get?_set, get?_blend]
  by_cases hw : v = w
  · subst hw
    rw [if_pos rfl, if_pos rfl, if_pos hv]
  · rw [if_neg hw, if_neg hw]

end Store

/-! ### Runs -/

/-- Replaces the variables that a program does not mention by those of `base`. -/
def Program.forget (p : Program) (base : Store) : Translation :=
  { Translation.unchanged with store := Store.blend p.Mentions base }

namespace Machine

variable {m : Machine} {s : State}

/-- A statement of a program does not notice the variables that the program does not mention. -/
theorem forget_agrees {line : Text} {i depth : Nat} {statement : Statement} (base : Store)
    (hline : m.program.line? i = some line)
    (hparse : Statement.parse (line.drop depth) = .ok statement) :
    (m.program.forget base).Agrees m m statement.action := by
  have hsource {w : Text} (hw : w ∈ statement.action.expression? ∨ w ∈ statement.action.target?) :
      w ⊆ m.program.source := by
    have hpart := Statement.subset_of_parse hparse hw
    exact List.Subset.trans hpart
      (List.Subset.trans (List.drop_sublist _ _).subset (Program.subset_source hline))
  have hagree {e : Text} (he : e ∈ statement.action.expression?) (store : Store) :
      (Store.blend m.program.Mentions base store).AgreesOn store e := by
    intro v hv
    rw [Store.get?_blend]
    exact if_pos (hsource (.inl he) hv)
  refine ⟨fun e he store => evalArithmetic_of_agree (hagree he store),
    fun e he store => evalCondition_of_agree (hagree he store), fun t ht v hv store value => ?_,
    fun _ depth target => (congrFun Except.map_id _).symm⟩
  refine Store.blend_set _ (hsource (.inr ht) ?_) base store value
  rw [← Variable.letter_of_resolve hv]
  exact List.mem_singleton_self _

theorem run_forget (m : Machine) (base : Store) (n : Nat) (s : State) :
    m.run n ((m.program.forget base).state s) =
      (m.run n s).map (m.program.forget base).state := by
  refine run_map (P := fun _ => True) (fun s _ => ?_) (fun _ _ _ _ => trivial) trivial n
  refine Translation.step_state ⟨rfl, fun _ => rfl⟩ ?_ fun text statement hview hparse => ?_
  · show m.view s.line s.depth = _
    cases m.view s.line s.depth <;> rfl
  · obtain ⟨line, hline, rfl⟩ := exists_line_of_view hview
    exact forget_agrees base hline hparse

end Machine

/-- A change of the variables shows in the result of a run and nowhere else. -/
theorem Outcome.result_map_store {f : State → State} {g : Store → Store}
    (h : ∀ s, f s = { s with store := g s.store }) (p : Program) (o : Outcome) :
    (o.map f).result p = { o.result p with store := g (o.result p).store } := by
  obtain rfl : f = fun s => { s with store := g s.store } := funext h
  match o with
  | .running s => rfl
  | .finished s => rfl
  | .failed s cause => cases cause <;> rfl

/-- **A program does not notice the variables that it does not mention**: they can be replaced
before a run as well as after it. -/
theorem interpret_blend (settings : Settings) (limit : Nat) (filename : String) (p : Program)
    (base store : Store) (console : Console) :
    interpret settings limit filename (.program p) (.blend p.Mentions base store) console =
      { interpret settings limit filename (.program p) store console with
        store := .blend p.Mentions base
          (interpret settings limit filename (.program p) store console).store } := by
  have hrun := Machine.run_forget ⟨p, settings⟩ base limit { store, console := console.enter }
  have hstart : (p.forget base).state { store, console := console.enter } =
      { store := .blend p.Mentions base store, console := console.enter } := rfl
  rw [hstart] at hrun
  rw [interpret_eq_result, interpret_eq_result, hrun]
  exact Outcome.result_map_store (fun _ => rfl) p _

/-- **A run depends on the variables that its text mentions, and sets no others.** Started from two
stores that agree on the variables whose letters occur in the text of the program, it comes to the
same verdict, leaves the same console and notes the same events, among them all statements that are
executed and the cursors at which they are. In the end the stores again agree on these variables,
and every other variable is what it was in the store from which the run started. -/
theorem interpret_of_agree (settings : Settings) (limit : Nat) (filename : String) (p : Program)
    (store store' : Store) (console : Console)
    (h : ∀ v, p.Mentions v → store.get? v = store'.get? v) :
    let r := interpret settings limit filename (.program p) store console
    let r' := interpret settings limit filename (.program p) store' console
    r'.verdict = r.verdict ∧ r'.console = r.console ∧ r'.journal = r.journal ∧
      (∀ v, p.Mentions v → r'.store.get? v = r.store.get? v) ∧
      ∀ v, ¬p.Mentions v → r.store.get? v = store.get? v ∧ r'.store.get? v = store'.get? v := by
  intro r r'
  -- Both stores are blends of the first one, with itself and with the second one.
  have hself : r = { r with store := .blend p.Mentions store r.store } := by
    have hblend := interpret_blend settings limit filename p store store console
    rwa [Store.blend_of_agree p.Mentions fun _ _ => rfl] at hblend
  have hother : r' = { r with store := .blend p.Mentions store' r.store } := by
    have hblend := interpret_blend settings limit filename p store' store console
    rwa [Store.blend_of_agree p.Mentions h] at hblend
  clear_value r r'
  rw [hother]
  refine ⟨rfl, rfl, rfl, fun v hv => ?_, fun v hv => ⟨?_, ?_⟩⟩
  · rw [Store.get?_blend, if_pos hv]
  · rw [hself, Store.get?_blend, if_neg hv]
  · rw [Store.get?_blend, if_neg hv]

/-- A program that mentions `x` only runs alike whether or not `a` has a value, and leaves this
value alone. -/
theorem interpret_of_agree_unmentioned :
    let p : Program := .ofText "" ['x', '=', 'x', '*', '2', '\n', 'p', 'r', 'i', 'n', 't', ' ', 'x']
    let store : Store := Store.empty.set 23 4
    let store' : Store := (Store.empty.set 23 4).set 0 7
    let r' := interpret .standard 9 "" (.program p) store' {}
    p.Mentions 23 ∧ ¬p.Mentions 0 ∧ r'.console.output = "8\n" ∧
      r'.console = (interpret .standard 9 "" (.program p) store {}).console ∧
      r'.store.get? 0 = some 7 := by
  intro p store store' r'
  have hagree := interpret_of_agree .standard 9 "" p store store' {} (by decide +kernel)
  have hunset : ¬p.Mentions 0 := by decide +kernel
  refine ⟨by decide +kernel, hunset, by decide +kernel, hagree.2.1, ?_⟩
  exact (hagree.2.2.2.2 0 hunset).2.trans (by decide +kernel)

end LineScript
