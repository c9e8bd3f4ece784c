import LineScript.Proofs.Lockstep
import LineScript.Proofs.Verdict

/-!
# Lines that are not executed

A machine reads the text of a line only to execute it, or to report that it cannot. Of all other
lines it takes no more than their shape: whether a line is blank, how deep it is, and whether its
indentation is followed by a blank character. Nothing that is written in a block that is not
entered, or on a line that is jumped over, can be noticed, be it a statement or not.

`Outcome.linesRead` are the lines whose text a run has read, as they can be told from what the run
leaves. `Machine.run_of_shape` compares the runs of two programs of the same shape that have these
lines in common.
-/

namespace LineScript

open Text

/-! ### Shapes -/

/-- The shape of a line: none if it is blank, and otherwise the number of spaces it starts with and
whether they are followed by a blank character. -/
def shapeOf (line : Text) : Option (Nat × Bool) :=
  if allBlank line then none
  else some (depthOf line, (line.drop (depthOf line)).head?.any isBlank)

/-- The shapes of the lines of a program. -/
def Program.shape (p : Program) : Array (Option (Nat × Bool)) := p.lines.map shapeOf

section Shape

variable {line line' : Text}

theorem isNone_shapeOf (line : Text) : (shapeOf line).isNone = allBlank line := by
  cases hblank : allBlank line <;> simp [shapeOf, hblank]

theorem depth_lt_iff_shapeOf {depth : Nat} :
    allBlank line = false ∧ depth < depthOf line ↔ ∃ x ∈ shapeOf line, depth < x.1 := by
  cases hblank : allBlank line <;> simp [shapeOf, hblank]

/-- Lines of the same shape look the same from within any block, unless they belong to it. -/
theorem viewLine_of_shapeOf (hshape : shapeOf line = shapeOf line') {unit depth : Nat}
    (hnot : ∀ text, viewLine unit depth line ≠ .here text) :
    viewLine unit depth line' = viewLine unit depth line := by
  have hsame : allBlank line' = allBlank line := by
    rw [← isNone_shapeOf, ← hshape, isNone_shapeOf]
  unfold viewLine at hnot ⊢
  rw [hsame]
  cases hblank : allBlank line with
  | true => rfl
  | false =>
    obtain ⟨hdepth, hhead⟩ : depthOf line = depthOf line' ∧
        (line.drop (depthOf line)).head?.any isBlank =
          (line'.drop (depthOf line')).head?.any isBlank := by
      simpa [shapeOf, hblank, hsame] using hshape
    have hfault : indentFailure? unit line' = indentFailure? unit line := by
      rw [indentFailure?, indentFailure?, hhead, hdepth]
    rw [hblank] at hnot
    rw [hfault, ← hdepth]
    cases hf : indentFailure? unit line with
    | some cause => rfl
    | none =>
      simp only [hf, Bool.false_eq_true, if_false] at hnot ⊢
      split_ifs at hnot ⊢
      · rfl
      · rfl
      · exact absurd rfl (hnot _)

/-- Programs of the same shape have lines of the same shape, or none, in the same places. -/
theorem Program.line?_of_shape {p q : Program} (h : p.shape = q.shape) (i : Nat) :
    p.line? i = none ∧ q.line? i = none ∨
      ∃ line line', p.line? i = some line ∧ q.line? i = some line' ∧
        shapeOf line = shapeOf line' := by
  have hi : (p.line? i).map shapeOf = (q.line? i).map shapeOf := by
    have hat := congrArg (·[i]?) h
    simpa [shape, line?, Array.getElem?_map] using hat
  cases hp : p.line? i <;> cases hq : q.line? i <;> simp [hp, hq] at hi
  · exact .inl ⟨rfl, rfl⟩
  · exact .inr ⟨_, _, rfl, rfl, hi⟩

theorem Program.size_of_shape {p q : Program} (h : p.shape = q.shape) : p.size = q.size := by
  simpa [shape, size] using congrArg Array.size h

end Shape

/-! ### Steps -/

namespace Machine

variable {m m' : Machine} {s : State}

/-- Whether a jump is let through, and to which line it leads, depends on the shape only. -/
theorem jumpIndex_of_shape (hshape : m.program.shape = m'.program.shape) (depth : Nat)
    (target : Int) : m'.jumpIndex depth target = m.jumpIndex depth target := by
  rw [jumpIndex, jumpIndex, Program.size_of_shape hshape]
  by_cases hlow : target < 1
  · rw [if_pos hlow, if_pos hlow]
  · rw [if_neg hlow, if_neg hlow]
    obtain ⟨h, h'⟩ | ⟨line, line', h, h', hline⟩ := Program.line?_of_shape hshape (target.toNat - 1)
    · rw [h, h']
    · rw [h, h']
      simp only [depth_lt_iff_shapeOf, hline]

/-- A step is the same on two machines whose programs have the same shape, if the line at the cursor
is the same where it is executed. -/
theorem step_of_shape (hsettings : m'.settings = m.settings)
    (hshape : m.program.shape = m'.program.shape)
    (hread : ∀ text, m.view s.line s.depth = .here text →
      m'.program.line? s.line = m.program.line? s.line) : m'.step s = m.step s := by
  have hview : m'.view s.line s.depth = m.view s.line s.depth := by
    have hunit : m'.unit = m.unit := congrArg Settings.unit hsettings
    by_cases hhere : ∃ text, m.view s.line s.depth = .here text
    · obtain ⟨text, htext⟩ := hhere
      rw [view, view, hread text htext, hunit]
    · obtain ⟨h, h'⟩ | ⟨line, line', h, h', hline⟩ := Program.line?_of_shape hshape s.line
      · rw [view, view, h, h']
      · rw [view, h] at hhere
        rw [view, view, h, h', hunit]
        exact viewLine_of_shapeOf hline fun text htext => hhere ⟨text, htext⟩
  rw [step_eq_react, step_eq_react, hview]
  cases m.view s.line s.depth with
  | here text =>
    refine dispatch_congr fun statement _ => execStatement_congr hsettings statement ?_
    exact fun _ _ _ _ => jumpIndex_of_shape hshape _ _
  | _ => rfl

end Machine

/-! ### Lines that are read -/

/-- The numbers of the lines that have been read when a run comes to an outcome: those of the
statements that were executed, and that of the line where it failed. -/
def Outcome.linesRead (o : Outcome) : List Nat :=
  o.state.journal.dispatches.map (·.1) ++
    match o with
    | .failed s _ => [s.line + 1]
    | _ => []

namespace Machine

variable {m m' : Machine} {s s' : State}

/-- What has been executed stays on record. -/
theorem dispatches_prefix_run (m : Machine) (s : State) (n : Nat) :
    s.journal.dispatches <+: (m.run n s).state.journal.dispatches := by
  refine run_state_induction (P := fun t => s.journal.dispatches <+: t.journal.dispatches)
    (fun t ht => ht.trans ?_) (List.prefix_refl _) n
  cases hat : m.statementAt? t with
  | none =>
    have hsame := (passed hat).dispatches
    exact hsame ▸ List.prefix_refl _
  | some statement =>
    rw [dispatches_of_statementAt? hat]
    exact List.prefix_append _ _

/-- A line that is executed has been read, whether or not it holds a statement. -/
theorem mem_linesRead_of_view {text : Text} (h : m.view s.line s.depth = .here text) :
    s.line + 1 ∈ (m.step s).linesRead := by
  have hdispatched := m.dispatched s text
  rw [step_eq_react, h, react]
  generalize m.dispatch s text = o at hdispatched
  cases hdispatched with
  | unrecognized _ => simp [Outcome.linesRead]
  | @failed statement cause _ _ =>
    have hnoted := m.dispatches_execStatement s statement
    simp [Outcome.linesRead, Outcome.state, hnoted]
  | @completed statement target _ _ =>
    have hnoted := m.dispatches_execStatement s statement
    simp [Outcome.linesRead, Outcome.state, State.note, Journal.dispatches_push, hnoted]

/-- What the first step has read is among what a run has read. -/
theorem linesRead_step_subset (m : Machine) (s : State) (n : Nat) :
    (m.step s).linesRead ⊆ (m.run (n + 1) s).linesRead := by
  cases h : m.step s with
  | running s' =>
    have hkept := ((m.dispatches_prefix_run s' n).map (·.1)).subset
    intro k hk
    have hnoted : k ∈ s'.journal.dispatches.map (·.1) := by
      simpa [Outcome.linesRead, Outcome.state] using hk
    rw [run_succ_of_running h]
    exact List.mem_append_left _ (hkept hnoted)
  | finished s' => rw [run_succ_of_stop h nofun]; exact List.Subset.refl _
  | failed s' cause => rw [run_succ_of_stop h nofun]; exact List.Subset.refl _

/-- **Runs of programs of the same shape are the same** if the lines that the one reads are those of
the other. -/
theorem run_of_shape (hsettings : m'.settings = m.settings)
    (hshape : m.program.shape = m'.program.shape) (n : Nat) (s : State)
    (hread : ∀ k ∈ (m.run n s).linesRead, m.program.line? (k - 1) = m'.program.line? (k - 1)) :
    m'.run n s = m.run n s := by
  induction n generalizing s with
  | zero => rfl
  | succ n ih =>
    have hstep : m'.step s = m.step s := by
      refine step_of_shape hsettings hshape fun text htext => ?_
      have hline := hread _ (m.linesRead_step_subset s n (mem_linesRead_of_view htext))
      exact hline.symm
    cases h : m.step s with
    | running s' =>
      rw [h] at hstep
      rw [run_succ_of_running h] at hread ⊢
      rw [run_succ_of_running hstep]
      exact ih s' hread
    | finished s' =>
      rw [h] at hstep
      rw [run_succ_of_stop h nofun, run_succ_of_stop hstep nofun]
    | failed s' cause =>
      rw [h] at hstep
      rw [run_succ_of_stop h nofun, run_succ_of_stop hstep nofun]

end Machine

/-- **What is not executed cannot be noticed.** Take two programs of the same shape: line by line
both are blank, or they start with the same number of spaces and these are followed by a blank
character in both or in neither. If they have the same text on the lines of the statements that the
first one executes, and on the line where it fails, then they run alike: through the same states, to
the same verdict at the same line, with the same variables and the same console. -/
theorem interpret_of_shape (settings : Settings) (limit : Nat) (filename filename' : String)
    (p q : Program) (store : Store) (console : Console) (hshape : p.shape = q.shape)
    (hread : ∀ k ∈ (Machine.run ⟨p, settings⟩ limit { store, console := console.enter }).linesRead,
      p.line? (k - 1) = q.line? (k - 1)) :
    let r := interpret settings limit filename (.program p) store console
    let r' := interpret settings limit filename' (.program q) store console
    Machine.run ⟨q, settings⟩ limit { store, console := console.enter } =
        Machine.run ⟨p, settings⟩ limit { store, console := console.enter } ∧
      r'.verdict = r.verdict ∧ r'.store = r.store ∧ r'.console = r.console ∧
      r'.journal.dispatches = r.journal.dispatches := by
  intro r r'
  have hsettings : (Machine.mk q settings).settings = (Machine.mk p settings).settings := rfl
  have hrun := Machine.run_of_shape hsettings hshape limit _ hread
  have hr : r = _ := interpret_eq_result settings limit filename p store console
  have hr' : r' = _ := interpret_eq_result settings limit filename' q store console
  rw [hrun] at hr'
  generalize Machine.run ⟨p, settings⟩ limit { store, console := console.enter } = o at *
  -- The two results can only differ in the line that a verdict quotes, and that has been read.
  have hverdict : o.verdict q = o.verdict p := by
    match o with
    | .running s => rfl
    | .finished s => rfl
    | .failed s cause =>
      have hline : p.line? s.line = q.line? s.line :=
        hread (s.line + 1) (List.mem_append_right _ (List.mem_singleton_self _))
      cases cause with
      | script fault => rw [Outcome.verdict, Outcome.verdict, hline]
      | _ => rfl
  rw [hr, hr']
  refine ⟨hrun, hverdict, rfl, ?_, ?_⟩
  · rw [Outcome.result, Outcome.result, hverdict]
  · rw [Outcome.dispatches_result, Outcome.dispatches_result]

/-- A line in a block that is not entered and one that is jumped over: neither is read, so it does
not matter that they hold no statement in one of the programs. -/
theorem interpret_of_shape_skipped :
    let p : Program := .ofLines "p" [
      ['i', 'f', ' ', '1', '>', '2'],
      [' ', ' ', 'p', 'r', 'i', 'n', 't', ' ', '1'],
      ['g', 'o', 't', 'o', ' ', '5'],
      ['x', '=', '1'],
      ['p', 'r', 'i', 'n', 't', ' ', '7', '/', '0']]
    let q : Program := .ofLines "q" [
      ['i', 'f', ' ', '1', '>', '2'],
      [' ', ' ', '?'],
      ['g', 'o', 't', 'o', ' ', '5'],
      ['#', '#', '#'],
      ['p', 'r', 'i', 'n', 't', ' ', '7', '/', '0']]
    let settings : Settings := ⟨2, by decide, []⟩
    p ≠ q ∧ (Machine.run ⟨p, settings⟩ 9 { }).linesRead = [1, 3, 5, 5] ∧
      (interpret settings 9 "" (.program p) .empty {}).console.output =
        "Line 5: print 7/0\nScriptArithmeticError: Division by zero\n" ∧
      (interpret settings 9 "" (.program q) .empty {}).console =
        (interpret settings 9 "" (.program p) .empty {}).console := by
  intro p q settings
  refine ⟨by decide +kernel, by decide +kernel, by decide +kernel, ?_⟩
  exact (interpret_of_shape settings 9 "" "" p q .empty {} (by decide +kernel)
    (by decide +kernel)).2.2.2.1

end LineScript
