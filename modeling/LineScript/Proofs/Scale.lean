import LineScript.Proofs.Lines
import LineScript.Proofs.Lockstep
import LineScript.Proofs.Verdict

/-!
# Changing the indent unit

The indent unit is a matter of writing. `Program.rescale` writes each level of indentation of a
program in `v` spaces instead of `u`. If the lines are well indented, a machine with the indent unit
`v` executes the new program as a machine with the indent unit `u` executes the old one: every depth
`k * u` becomes `k * v`, and nothing else changes. `rescaling` is this change as a translation, and
that it takes steps to steps is seen from three facts about a line: it looks the same
(`viewLine_rescaleLine`), a jump may lead to it from the same blocks (`depth_lt_rescaleLine_iff`),
and one level more is one level more.
-/

namespace LineScript

open Text

/-! ### Lines and programs -/

/-- The line with each `u` spaces of its indentation replaced by `v`. A blank line has no
indentation and is left as it is. -/
def rescaleLine (u v : Nat) (line : Text) : Text :=
  if allBlank line then line
  else List.replicate (depthOf line / u * v) ' ' ++ line.drop (depthOf line)

/-- The program with all its lines indented by `v` spaces where they were by `u`. -/
def Program.rescale (u v : Nat) (p : Program) : Program :=
  .ofEnded p.filename (p.lines.toList.map (rescaleLine u v))

section Line

variable {u v depth : Nat} {line : Text}

theorem rescaleLine_of_blank (h : allBlank line = true) : rescaleLine u v line = line :=
  if_pos h

theorem isBreak_of_mem_rescaleLine (h : ∀ c ∈ line, isBreak c = false) :
    ∀ c ∈ rescaleLine u v line, isBreak c = false := by
  intro c hc
  rw [rescaleLine] at hc
  split at hc
  · exact h c hc
  · rcases List.mem_append.mp hc with hspace | hrest
    · rw [List.eq_of_mem_replicate hspace]
      rfl
    · exact h c (List.mem_of_mem_drop hrest)

/-- What a line that is not blank looks like with its indentation changed. -/
structure Rescaled (u v : Nat) (line line' : Text) : Prop where
  allBlank : allBlank line' = false
  depthOf : depthOf line' = depthOf line / u * v
  drop : line'.drop (LineScript.depthOf line / u * v) = line.drop (LineScript.depthOf line)
  wellIndented : WellIndented v line'

theorem rescaled (hblank : allBlank line = false) (h : WellIndented u line) :
    Rescaled u v line (rescaleLine u v line) := by
  obtain ⟨c, hhead, hc⟩ := h.head_not_isBlank
  obtain ⟨rest, hrest⟩ : ∃ rest, line.drop (depthOf line) = c :: rest :=
    List.head?_eq_some_iff.mp hhead
  have hline : rescaleLine u v line = List.replicate (depthOf line / u * v) ' ' ++ c :: rest := by
    rw [rescaleLine, hblank, if_neg Bool.false_ne_true, hrest]
  -- The indentation ends where it did, at a character that is not blank.
  have hdepth : depthOf (rescaleLine u v line) = depthOf line / u * v := by
    have hspaces : ∀ d ∈ List.replicate (depthOf line / u * v) ' ', (d == ' ') = true := by
      intro d hd
      rw [List.eq_of_mem_replicate hd]
      rfl
    have hnot : ¬(c == ' ') = true := by
      intro hspace
      rw [beq_iff_eq.mp hspace] at hc
      revert hc
      decide +kernel
    rw [hline, depthOf, List.takeWhile_append_of_pos hspaces, List.takeWhile_cons, if_neg hnot,
      List.append_nil, List.length_replicate]
  have hdrop : (rescaleLine u v line).drop (depthOf line / u * v) = line.drop (depthOf line) := by
    rw [hline, hrest]
    exact List.drop_left' List.length_replicate
  refine ⟨?_, hdepth, hdrop, ?_, c, ?_, hc⟩
  · rw [hline, allBlank, List.all_append, List.all_cons, hc]
    simp
  · rw [hdepth]
    exact Nat.dvd_mul_left _ _
  · rw [hdepth, hdrop]
    exact hhead

/-- Depths are ordered as they were. -/
theorem rescale_lt_iff (hu : 0 < u) (hv : 0 < v) {a b : Nat} (hb : u ∣ b) :
    a / u * v < b / u * v ↔ a < b := by
  rw [Nat.mul_lt_mul_right hv, Nat.div_lt_iff_lt_mul hu, Nat.div_mul_cancel hb]

/-- A line looks the same from within a block whose depth has changed with it. -/
theorem viewLine_rescaleLine (hu : 0 < u) (hv : 0 < v) (hdepth : u ∣ depth)
    (h : allBlank line = false → WellIndented u line) :
    viewLine v (depth / u * v) (rescaleLine u v line) =
      (viewLine u depth line).mapDepth (· / u * v) := by
  cases hblank : allBlank line with
  | true => rw [rescaleLine_of_blank hblank, viewLine, viewLine, hblank]; rfl
  | false =>
    have hline := h hblank
    obtain ⟨hblank', hdepth', hdrop, hline'⟩ := rescaled (v := v) hblank hline
    have hfault := (indentFailure?_eq_none_iff hblank).mpr hline
    have hfault' := (indentFailure?_eq_none_iff hblank').mpr hline'
    simp only [viewLine, hblank, hblank', hfault, hfault', hdrop, hdepth', Bool.false_eq_true,
      if_false, rescale_lt_iff hu hv hdepth, rescale_lt_iff hu hv hline.dvd_depth]
    split_ifs <;> rfl

/-- A line is deeper than a block if and only if it is when both depths have changed. -/
theorem depth_lt_rescaleLine_iff (hu : 0 < u) (hv : 0 < v)
    (h : allBlank line = false → WellIndented u line) :
    (allBlank (rescaleLine u v line) = false ∧ depth / u * v < depthOf (rescaleLine u v line)) ↔
      allBlank line = false ∧ depth < depthOf line := by
  cases hblank : allBlank line with
  | true => simp [rescaleLine_of_blank hblank, hblank]
  | false =>
    have hline := h hblank
    obtain ⟨hblank', hdepth', -, -⟩ := rescaled (v := v) hblank hline
    simp only [hblank', hdepth', true_and, rescale_lt_iff hu hv hline.dvd_depth]

end Line

namespace Program

variable {u v : Nat} {p : Program}

theorem lines_rescale : (p.rescale u v).lines = p.lines.map (rescaleLine u v) := by
  have hbreak : ∀ line ∈ p.lines.toList.map (rescaleLine u v), ∀ c ∈ line, isBreak c = false := by
    intro line hline
    obtain ⟨original, horiginal, rfl⟩ := List.mem_map.mp hline
    exact isBreak_of_mem_rescaleLine (p.isBreak_of_mem_line original horiginal)
  rw [rescale, lines_ofEnded hbreak, ← List.map_toArray, Array.toArray_toList]

theorem line?_rescale (i : Nat) : (p.rescale u v).line? i = (p.line? i).map (rescaleLine u v) := by
  rw [line?, lines_rescale, Array.getElem?_map]
  rfl

theorem size_rescale : (p.rescale u v).size = p.size := by
  rw [size, lines_rescale, Array.size_map]
  rfl

end Program

/-! ### Runs -/

/-- Replaces every depth `k * u` by `k * v`. -/
def rescaling (u v : Nat) : Translation :=
  { Translation.unchanged with
    depth := fun d => d / u * v
    journal := fun j => j.map (Event.translate 0 (· / u * v))
    journal_push := fun _ _ => Array.map_push }

/-- Two states are the same but for their depths, which are in the ratio `u : v`. -/
structure State.Scaled (u v : Nat) (s s' : State) : Prop where
  line : s'.line = s.line
  depth : s'.depth * u = s.depth * v
  store : s'.store = s.store
  console : s'.console = s.console
  /-- The same has happened on the same lines, in blocks of depth `k * v` where it was `k * u`. -/
  journal : s'.journal = s.journal.map (Event.translate 0 (· / u * v))

/-- Two outcomes are of the same sort, with states that differ in their depths only. -/
inductive Outcome.Scaled (u v : Nat) : Outcome → Outcome → Prop where
  | running {s s' : State} : s.Scaled u v s' → Scaled u v (.running s) (.running s')
  | finished {s s' : State} : s.Scaled u v s' → Scaled u v (.finished s) (.finished s')
  | failed {s s' : State} {cause : Failure} :
      s.Scaled u v s' → Scaled u v (.failed s cause) (.failed s' cause)

/-- The verdict with the line it quotes indented by `v` spaces where it was by `u`. -/
def Verdict.rescale (u v : Nat) : Verdict → Verdict
  | error report => error { report with line := report.line.map (rescaleLine u v) }
  | verdict => verdict

namespace Machine

variable {m : Machine} {v : Nat}

/-- The machine that executes the program with another indent unit. -/
def rescale (m : Machine) (v : Nat) (hv : 0 < v) : Machine :=
  ⟨m.program.rescale m.unit v, { m.settings with unit := v, unit_pos := hv }⟩

theorem jumpIndex_rescale (hv : 0 < v)
    (h : ∀ line ∈ m.program.lines, allBlank line = false → WellIndented m.unit line) (depth : Nat)
    (target : Int) :
    (m.rescale v hv).jumpIndex (depth / m.unit * v) target = m.jumpIndex depth target := by
  rw [jumpIndex, jumpIndex, rescale, Program.size_rescale]
  split_ifs with hlow
  · rfl
  · rw [Program.line?_rescale]
    cases hline : m.program.line? (target.toNat - 1) with
    | none => rfl
    | some line =>
      have hunit : 0 < m.unit := m.settings.unit_pos
      have hindent := h line (Array.mem_of_getElem? hline)
      simp only [Option.map_some, depth_lt_rescaleLine_iff hunit hv hindent]

theorem view_rescale (hv : 0 < v)
    (h : ∀ line ∈ m.program.lines, allBlank line = false → WellIndented m.unit line) (i : Nat)
    {depth : Nat} (hdepth : m.unit ∣ depth) :
    (m.rescale v hv).view i (depth / m.unit * v) = (m.view i depth).mapDepth (· / m.unit * v) := by
  rw [view, view, rescale, Program.line?_rescale]
  cases hline : m.program.line? i with
  | none => rfl
  | some line =>
    have hindent := h line (Array.mem_of_getElem? hline)
    exact viewLine_rescaleLine m.settings.unit_pos hv hdepth hindent

/-- **With another indent unit a run goes through the same states**, but for their depths. -/
theorem run_rescale (hv : 0 < v)
    (h : ∀ line ∈ m.program.lines, allBlank line = false → WellIndented m.unit line) {s : State}
    (hs : m.Placed s) (n : Nat) :
    (m.rescale v hv).run n ((rescaling m.unit v).state s) =
      (m.run n s).map (rescaling m.unit v).state := by
  refine run_map (P := m.Placed) (fun s hs => ?_) (fun s s' hs hstep => ?_) hs n
  · have hfits : (rescaling m.unit v).Fits m (m.rescale v hv) := by
      refine ⟨rfl, fun depth => ?_⟩
      have hunit : 0 < m.unit := m.settings.unit_pos
      show (depth + m.unit) / m.unit * v = depth / m.unit * v + v
      rw [Nat.add_div_right _ hunit, Nat.add_one_mul]
    have hagrees (action : Action) : (rescaling m.unit v).Agrees m (m.rescale v hv) action := by
      refine ⟨fun _ _ _ => rfl, fun _ _ _ => rfl, fun _ _ _ _ _ _ => rfl, fun _ depth target => ?_⟩
      exact (jumpIndex_rescale hv h depth target).trans (congrFun Except.map_id _).symm
    exact Translation.step_state hfits (view_rescale hv h s.line hs.dvd_depth)
      fun _ statement _ _ => hagrees statement.action
  · have hplaced := hs.step
    rwa [hstep] at hplaced

end Machine

theorem Outcome.scaled_map {u v : Nat} {o : Outcome} (h : u ∣ o.state.depth) :
    o.Scaled u v (o.map (rescaling u v).state) := by
  have hstate : o.state.Scaled u v ((rescaling u v).state o.state) := by
    refine ⟨rfl, ?_, rfl, rfl, rfl⟩
    obtain ⟨k, hk⟩ := h
    show o.state.depth / u * v * u = o.state.depth * v
    rw [Nat.mul_right_comm, Nat.div_mul_cancel ⟨k, hk⟩]
  cases o with
  | running s => exact .running hstate
  | finished s => exact .finished hstate
  | failed s cause => exact .failed hstate

theorem Outcome.verdict_rescale {u v : Nat} (p : Program) (o : Outcome) :
    (o.map (rescaling u v).state).verdict (p.rescale u v) = (o.verdict p).rescale u v := by
  match o with
  | .running s => rfl
  | .finished s => rfl
  | .failed s cause =>
    cases cause with
    | script fault =>
      have hline : ((p.rescale u v).line? s.line).getD [] =
          rescaleLine u v ((p.line? s.line).getD []) := by
        rw [Program.line?_rescale]
        cases p.line? s.line <;> rfl
      show Verdict.error (.atLine fault s.line (((p.rescale u v).line? s.line).getD [])) = _
      rw [hline]
      rfl
    | _ => rfl

/-- **The indent unit is only a scale.** Let all lines of a program that are not blank be well
indented, and write each level of indentation in `v` spaces. Executed with the indent unit `v`, the
new program proceeds as the old one does: after any number of steps the states differ in their
depths only, which are in the ratio of the units. A run of it leaves the same variables and the same
input, and the same output up to the report of an error, which differs at most in the indentation of
the line that it quotes. -/
theorem interpret_rescale (settings : Settings) (v : Nat) (hv : 0 < v) (p : Program)
    (h : ∀ line ∈ p.lines, allBlank line = false → WellIndented settings.unit line)
    (store : Store) (console : Console) (limit : Nat) (filename filename' : String) :
    let m : Machine := ⟨p, settings⟩
    let m' : Machine := m.rescale v hv
    let r := interpret settings limit filename (.program p) store console
    let r' := interpret m'.settings limit filename' (.program m'.program) store console
    (m.run limit { store, console := console.enter }).Scaled settings.unit v
        (m'.run limit { store, console := console.enter }) ∧
      r'.verdict = r.verdict.rescale settings.unit v ∧ r'.store = r.store ∧
      r'.console.input = r.console.input ∧
      ∃ text, r.console.output = text ++ r.verdict.reportText ∧
        r'.console.output = text ++ r'.verdict.reportText := by
  intro m m' r r'
  have hplaced := m.placed_start store console.enter
  have hdvd := (Machine.run_state_induction (fun _ => Machine.Placed.step) hplaced limit).dvd_depth
  have hrun := Machine.run_rescale hv h hplaced limit
  have hstart : (rescaling m.unit v).state { store, console := console.enter } =
      { store, console := console.enter } := by
    simp [Translation.state, rescaling, Translation.unchanged]
  rw [hstart] at hrun
  have hr : r = _ := interpret_eq_result settings limit filename p store console
  have hr' : r' = (m'.run limit { store, console := console.enter }).result m'.program :=
    interpret_eq_result m'.settings limit filename' m'.program store console
  rw [hr', hr, hrun]
  generalize m.run limit { store, console := console.enter } = o at hdvd
  refine ⟨Outcome.scaled_map hdvd, o.verdict_rescale p, ?_, ?_, o.state.console.output, ?_, ?_⟩
  · rw [Outcome.result, Outcome.result, Outcome.state_map]
    rfl
  · rw [Outcome.input_result, Outcome.input_result, Outcome.state_map]
    rfl
  · exact Outcome.output_result p o
  · rw [Outcome.output_result, Outcome.state_map]
    rfl

/-- A block indented by two spaces, and by three: the output is the same but for the line that the
report shows. -/
theorem interpret_rescale_block :
    let p : Program := .ofLines "" [
      ['i', 'f', ' ', '1', '<', '2'],
      [' ', ' ', 'p', 'r', 'i', 'n', 't', ' ', '3'],
      [' ', ' ', 'p', 'r', 'i', 'n', 't', ' ', '3', '/', '0']]
    let settings : Settings := ⟨2, by decide, []⟩
    let m' : Machine := Machine.rescale ⟨p, settings⟩ 3 (by decide)
    let r := interpret settings 9 "" (.program p) .empty {}
    let r' := interpret m'.settings 9 "" (.program m'.program) .empty {}
    (∀ line ∈ p.lines, allBlank line = false → WellIndented settings.unit line) ∧
      r.console.output = "3\nLine 3:   print 3/0\nScriptArithmeticError: Division by zero\n" ∧
      r'.console.output = "3\nLine 3:    print 3/0\nScriptArithmeticError: Division by zero\n" ∧
      r'.verdict = r.verdict.rescale 2 3 := by
  intro p settings m' r r'
  have hindent : ∀ line ∈ p.lines, allBlank line = false → WellIndented settings.unit line := by
    decide +kernel
  refine ⟨hindent, by decide +kernel, by decide +kernel, ?_⟩
  exact (interpret_rescale settings 3 (by decide) p hindent .empty {} 9 "" "").2.1

end LineScript
