import LineScript.Interpreter
import LineScript.Proofs.Effect
import LineScript.Proofs.Wording

/-!
# How a run ends

A run that stops has executed the whole program, or a line of it was at fault. With a console that
is open, as it is throughout a run, with every kind of statement supported and an indent unit within
the digit limit, nothing else can stop it. A fault is then reported at the line where the machine
stood: the report is two lines at the end of the output, and neither of them can be mistaken for
more than one. An indent unit past the digit limit is not noticed before the message about a line
has to show it, and the run then breaks off without a report.

The step lemmas are `Machine.Stepped.closed` and `Machine.presentable_of_step`, and
`Machine.ends_or_breaksOff` puts them together for a whole run.
-/

namespace LineScript

open Text

/-! ### Writing and reading -/

namespace Console

@[simp] theorem closed_close (c : Console) : c.close.closed = true := by
  rw [close]
  split
  · assumption
  · rfl

theorem output_write (c : Console) (line : String) :
    (c.write line).output = c.output ++ line ++ "\n" :=
  Array.foldl_push

@[simp] theorem output_close (c : Console) : c.close.output = c.output := by
  rw [close]
  split <;> rfl

theorem emit_of_open {c : Console} (h : c.closed = false) (line : String) :
    c.emit line = .ok (c.write line) := by
  rw [emit, h, if_neg Bool.false_ne_true]

theorem closed_of_emit {c c' : Console} {line : String} (h : c.emit line = .ok c') :
    c'.closed = c.closed := by
  rw [emit] at h
  split at h <;> cases h
  rfl

theorem writeReport_of_open {c : Console} (h : c.closed = false) (e : ErrorReport) :
    c.writeReport e = .ok ((c.write e.placeLine).write e.causeLine) := by
  have hwritten : (c.write e.placeLine).closed = false := h
  rw [writeReport, emit_of_open h]
  exact emit_of_open hwritten e.causeLine

theorem closed_awaitInteger (name : Text) (input : List Text) (c : Console) :
    (awaitInteger name input c).console.closed = c.closed := by
  fun_induction awaitInteger name input c with
  | case1 c => rfl
  | case2 c line rest value h => rfl
  | case3 c line rest length h reading ih => exact ih
  | case4 c line rest h ih => exact ih

theorem closed_readInteger (c : Console) (name : Text) :
    (c.readInteger name).console.closed = c.closed := by
  rw [readInteger]
  split
  · rfl
  · exact closed_awaitInteger name c.input _

/-- Reading can only fail because the input has ended. -/
theorem awaitInteger_failsOnly (name : Text) (input : List Text) (c : Console) :
    FailsOnly (· = .script (.inputEnded name)) (awaitInteger name input c).result := by
  fun_induction awaitInteger name input c with
  | case1 c => exact .error rfl
  | case2 c line rest value h => exact .ok value
  | case3 c line rest length h reading ih => exact ih
  | case4 c line rest h ih => exact ih

end Console

/-! ### The two lines of a report -/

namespace ErrorReport

/-- The report of a fault at the line with a given index. -/
def atLine (fault : Fault) (index : Nat) (line : Text) : ErrorReport where
  category := fault.category
  message := fault.message
  lineNumber := some (index + 1)
  line := some line

theorem placeLine_atLine (fault : Fault) (index : Nat) (line : Text) :
    (atLine fault index line).placeLine =
      "Line " ++ Text.toString (Numeral.decimal (index + 1)) ++ ": " ++ Text.toString line :=
  rfl

theorem causeLine_atLine (fault : Fault) (index : Nat) (line : Text) :
    (atLine fault index line).causeLine =
      (if fault.category = .invalidSyntax then "Syntax error: " else "") ++
        fault.category.name ++ ": " ++ fault.message := by
  have hformal : fault.category.isFormal = true ↔ fault.category = .invalidSyntax := by
    cases fault.category <;> decide
  show (if fault.category.isFormal = true then _ else _) ++ _ ++ _ ++ _ = _
  simp only [hformal]
  rfl

theorem newline_not_mem_placeLine {fault : Fault} {index : Nat} {line : Text} (h : '\n' ∉ line) :
    '\n' ∉ (atLine fault index line).placeLine.toList := by
  rw [placeLine_atLine]
  simpa [Text.toString, newline_not_mem_decimal] using h

theorem newline_not_mem_causeLine {fault : Fault} {index : Nat} {line : Text}
    (h : fault.Presentable) : '\n' ∉ (atLine fault index line).causeLine.toList := by
  have hmessage := Fault.newline_not_mem_message h
  have hname := fault.category.newline_not_mem_name
  rw [causeLine_atLine]
  split <;> simpa [hname] using hmessage

end ErrorReport

/-! ### Failures of a statement -/

/-- The script is at fault, and the fault can be worded in one line. -/
def Failure.Presentable : Failure → Prop
  | script f => f.Presentable
  | _ => False

theorem FailsOnly.mapError_script {α : Type} {x : Except Fault α}
    (h : FailsOnly Fault.Presentable x) :
    FailsOnly Failure.Presentable (x.mapError Failure.script) := by
  cases x with
  | error f => exact .error (h f rfl)
  | ok a => exact .ok a

namespace World

theorem closed_perform (w : World) (action : Action) :
    (w.perform action).1.console.closed = w.console.closed := by
  cases action with
  | input target =>
    rw [perform]
    split
    · rfl
    · dsimp only
      split <;> exact w.console.closed_readInteger target
  | assignment target expression =>
    rw [perform]
    split
    · rfl
    · split <;> rfl
  | output expression =>
    rw [perform]
    split
    · rfl
    · split
      · rfl
      · rename_i console hconsole
        exact Console.closed_of_emit hconsole
  | branch condition =>
    rw [perform]
    split <;> rfl
  | jump expression =>
    rw [perform]
    split <;> rfl

theorem closed_execute (w : World) (settings : Settings) (statement : Statement) :
    (w.execute settings statement).1.console.closed = w.console.closed := by
  rw [execute]
  split
  · rfl
  · exact w.closed_perform statement.action

/-- While the console is open, an action fails only with a fault that can be worded in one line. -/
theorem perform_failsOnly {w : World} (hopen : w.console.closed = false) (action : Action) :
    FailsOnly Failure.Presentable (w.perform action).2 := by
  cases action with
  | input target =>
    rw [perform]
    split
    · rename_i f hf
      exact .error (Variable.resolve_failsOnly target f hf).1
    · rename_i v hv
      -- The name that is awaited has been resolved, so it is a single letter.
      have hname : '\n' ∉ target := by
        rw [← Variable.letter_of_resolve hv, List.mem_singleton]
        exact v.newline_ne_letter
      have hresult := Console.awaitInteger_failsOnly target w.console.input
        (w.console.ask (Console.prompt target))
      rw [Console.readInteger, hopen, if_neg Bool.false_ne_true]
      dsimp only
      split
      · rename_i cause hcause
        obtain rfl := hresult cause hcause
        exact .error hname
      · exact .ok _
  | assignment target expression =>
    rw [perform]
    split
    · rename_i f hf
      exact .error (Variable.resolve_failsOnly target f hf).1
    · split
      · rename_i f hf
        exact .error (evalArithmetic_failsOnly w.store expression f hf)
      · exact .ok _
  | output expression =>
    rw [perform]
    split
    · rename_i f hf
      have hfails := (evalArithmetic_failsOnly w.store expression).bind
        fun value => formatInt_failsOnly value.toInt
      exact .error (hfails f hf)
    · rw [Console.emit_of_open hopen]
      exact .ok _
  | branch condition =>
    rw [perform]
    split
    · rename_i f hf
      exact .error (evalCondition_failsOnly w.store condition f hf)
    · exact .ok _
    · exact .ok _
  | jump expression =>
    rw [perform]
    split
    · rename_i f hf
      exact .error (evalArithmetic_failsOnly w.store expression f hf)
    · exact .ok _

theorem execute_failsOnly {w : World} {settings : Settings} (hall : settings.unsupported = [])
    (hopen : w.console.closed = false) (statement : Statement) :
    FailsOnly Failure.Presentable (w.execute settings statement).2 := by
  have hkind : statement.kind ∉ settings.unsupported := by
    rw [hall]
    exact List.not_mem_nil
  rw [execute, if_neg hkind]
  exact perform_failsOnly hopen statement.action

end World

namespace Machine

variable {m : Machine} {s s' t : State} {o : Outcome} {cause : Failure}

/-! ### Steps -/

theorem closed_execStatement (m : Machine) (s : State) (statement : Statement) :
    (m.execStatement s statement).state.console.closed = s.console.closed := by
  have hworld := (m.execStatement_performs s statement).world
  have hclosed := s.world.closed_execute m.settings statement
  rw [← hworld] at hclosed
  exact hclosed

theorem Dispatched.closed {text : Text} (h : m.Dispatched s text o) :
    o.state.console.closed = s.console.closed := by
  cases h with
  | unrecognized _ => rfl
  | failed _ _ => exact m.closed_execStatement s _
  | completed _ _ => exact m.closed_execStatement s _

/-- No step opens or closes the console. -/
theorem Stepped.closed (h : m.Stepped s o) : o.state.console.closed = s.console.closed := by
  cases h with
  | dispatched _ _ _ _ ho =>
    rw [ho]
    exact (m.dispatched s _).closed
  | _ => rfl

theorem Reaches.closed (h : m.Reaches s t) : t.console.closed = s.console.closed := by
  induction h with
  | refl => rfl
  | tail _ hstep ih => exact (stepped_of_step hstep).closed.trans ih

/-- A statement that fails does so with a fault that can be worded, and leaves the cursor at its
line. -/
theorem presentable_of_execStatement (hall : m.settings.unsupported = [])
    (hopen : s.console.closed = false) {statement : Statement}
    (h : (m.execStatement s statement).result = .error cause) :
    cause.Presentable ∧ (m.execStatement s statement).state.line = s.line := by
  obtain ⟨-, hline, -, hresult⟩ := m.execStatement_performs s statement
  refine ⟨?_, hline⟩
  have hfails : FailsOnly Failure.Presentable
      ((s.world.execute m.settings statement).2 >>= m.follow s.depth) := by
    refine (World.execute_failsOnly hall hopen statement).bind fun turn => ?_
    cases turn with
    | next | enter => exact .ok none
    | jump target => exact (m.jumpIndex_failsOnly s.depth target).mapError_script.map some
  rw [hresult] at h
  exact hfails cause h

/-- **What a failing step leaves.** There is a line at the cursor, which has not moved, and the
script is at fault, unless the line is unworded. -/
theorem presentable_of_step (hall : m.settings.unsupported = [])
    (hopen : s.console.closed = false) (h : m.step s = .failed s' cause) :
    s'.line = s.line ∧ ∃ line, m.program.line? s.line = some line ∧
      (cause.Presentable ∨ Unworded m.unit line ∧ cause = .digitLimit) := by
  cases stepped_of_step h with
  | misplaced hline _ hfault =>
    refine ⟨rfl, _, hline, ?_⟩
    obtain hunworded | ⟨-, f, rfl, -, hf⟩ := indentFailure?_eq_some hfault
    · exact .inr hunworded
    · exact .inl hf
  | @dispatched line _ hline _ _ _ ho =>
    have hdispatched := m.dispatched s (line.drop s.depth)
    rw [← ho] at hdispatched
    cases hdispatched with
    | unrecognized hparse => exact ⟨rfl, line, hline, .inl (Statement.parse_failsOnly _ _ hparse)⟩
    | failed _ hresult =>
      obtain ⟨hcause, hkept⟩ := presentable_of_execStatement hall hopen hresult
      exact ⟨hkept, line, hline, .inl hcause⟩

/-! ### Runs -/

/-- A fault at a line of the program is located there. -/
theorem locate_of_line {line : Text} (h : m.program.line? s.line = some line) (fault : Fault) :
    m.locate s fault = .ok (.atLine fault s.line line) := by
  have hlt : s.line < m.program.size := (Array.getElem?_eq_some_iff.mp h).1
  -- The index is cut down to the last line only when the cursor is behind it.
  have hindex : min (s.line : Int) (m.program.size - 1) = s.line := by omega
  have hline : m.program.lineAt s.line = .ok line := by
    have hnonneg : ¬(s.line : Int) < 0 := by omega
    rw [Program.lineAt]
    simp only [if_neg hnonneg, Int.toNat_natCast, h]
  rw [locate]
  simp only [hindex, hline]
  rfl

/-- While the console is open, a fault at a line of the program is noted and reported there. -/
theorem conclude_of_line {line : Text} (h : m.program.line? s.line = some line)
    (hopen : s.console.closed = false) (fault : Fault) :
    m.conclude s fault = (.error (.atLine fault s.line line), { s with
      console := (s.console.write (ErrorReport.atLine fault s.line line).placeLine).write
        (ErrorReport.atLine fault s.line line).causeLine
      journal := s.journal.push (.stopped m.program.filename (s.line + 1) fault.message) }) := by
  have hnumber : min s.line (m.program.size - 1) + 1 = s.line + 1 := by
    have hlt : s.line < m.program.size := (Array.getElem?_eq_some_iff.mp h).1
    omega
  have hreport := Console.writeReport_of_open hopen (.atLine fault s.line line)
  unfold conclude
  rw [locate_of_line h]
  dsimp only [State.note]
  rw [hreport, hnumber]
  rfl

/-- The ways in which a run of at most `limit` steps ends, and what its result is then. -/
inductive Ends (m : Machine) (limit : Nat) (start : State) (result : RunResult) : Prop where
  /-- The machine is still running after all its steps. -/
  | unfinished {s : State} :
      m.run limit start = .running s → result.verdict = .unfinished → Ends m limit start result
  /-- The program has been executed; nothing is reported. -/
  | completed {s : State} :
      m.run limit start = .finished s → result.verdict = .ok → result.store = s.store →
      result.console.output = s.console.output → Ends m limit start result
  /-- The step from a state that was reached found the script at fault, on a line of the program
  and while `s'` was its state; two lines that report this follow all that had been written. -/
  | reported {s s' : State} {fault : Fault} {line : Text} {place cause : String} :
      m.Reaches start s → m.step s = .failed s' (.script fault) →
      s.line < m.program.size → m.program.line? s.line = some line →
      result.verdict = .error (.atLine fault s.line line) →
      result.store = s'.store →
      place = "Line " ++ Text.toString (Numeral.decimal (s.line + 1)) ++ ": " ++
        Text.toString line →
      cause = (if fault.category = .invalidSyntax then "Syntax error: " else "") ++
        fault.category.name ++ ": " ++ fault.message →
      '\n' ∉ place.toList → '\n' ∉ cause.toList →
      result.console.output = s'.console.output ++ (place ++ "\n") ++ (cause ++ "\n") →
      Ends m limit start result

/-- A run of at most `limit` steps comes to an unworded line and breaks off there; what has been
written by then is left as it is, and nothing is reported. -/
def BreaksOff (m : Machine) (limit : Nat) (start : State) (result : RunResult) : Prop :=
  ∃ s line, m.run limit start = .failed s .digitLimit ∧ m.program.line? s.line = some line ∧
    Unworded m.unit line ∧ result.verdict = .refused .digitLimit ∧ result.store = s.store ∧
    result.console.output = s.console.output

/-- The result of a run that has come to an outcome. -/
def finish (m : Machine) (o : Outcome) : RunResult :=
  ⟨(m.settle o).1, (m.settle o).2.store, (m.settle o).2.console.close, (m.settle o).2.journal⟩

/-- With every kind of statement supported and the console open, a run ends in one of these ways,
and with no other failure. -/
theorem ends_or_breaksOff {start : State} (hall : m.settings.unsupported = [])
    (hopen : start.console.closed = false) (limit : Nat) :
    m.Ends limit start (m.finish (m.run limit start)) ∨
      m.BreaksOff limit start (m.finish (m.run limit start)) := by
  cases hrun : m.run limit start with
  | running s => exact .inl (.unfinished hrun rfl)
  | finished s => exact .inl (.completed hrun rfl rfl s.console.output_close)
  | failed s' cause =>
    have hhalts : m.Halts start (.failed s' cause) := ⟨nofun, limit, hrun⟩
    obtain ⟨s, hreach, hstep⟩ := hhalts.exists_step
    have hopen₁ : s.console.closed = false := hreach.closed.trans hopen
    have hopen₂ : s'.console.closed = false := (stepped_of_step hstep).closed.trans hopen₁
    -- The machine still stands at the line of the step that failed, so that is where the fault is
    -- located, and there is such a line.
    obtain ⟨hkept, line, hline, hcause⟩ := presentable_of_step hall hopen₁ hstep
    obtain hworded | ⟨hunworded, rfl⟩ := hcause
    · cases cause with
      | script fault =>
        have hlt : s.line < m.program.size := (Array.getElem?_eq_some_iff.mp hline).1
        rw [finish, settle, conclude_of_line (hkept.symm ▸ hline) hopen₂ fault, hkept]
        refine .inl (.reported hreach hstep hlt hline rfl rfl
          (ErrorReport.placeLine_atLine fault s.line line)
          (ErrorReport.causeLine_atLine fault s.line line)
          (ErrorReport.newline_not_mem_placeLine (Program.newline_not_mem_line hline))
          (ErrorReport.newline_not_mem_causeLine hworded) ?_)
        rw [Console.output_close, Console.output_write, Console.output_write]
        simp only [String.append_assoc]
      | _ => exact hworded.elim
    · exact .inr ⟨s', line, hrun, hkept.symm ▸ hline, hunworded, rfl, rfl, s'.console.output_close⟩

end Machine

/-- **A run that stops has executed its program or reports a fault of the script.** Whatever the
program, the variables and the input, no other failure comes out of a run, and it leaves the console
closed. A line that is not blank has a character behind its indentation, so the machine can look at
that. Only with an indent unit past the digit limit can a run break off otherwise, which it does
where a message would have to show the unit. -/
theorem interpret_ends {settings : Settings} {source : Source}
    (hall : settings.unsupported = []) (hsource : source ≠ .unusable) (limit : Nat)
    (filename : String) (store : Store) (console : Console) :
    ∃ program, source.toProgram filename = .ok program ∧
      (∀ line ∈ program.lines, allBlank line = false → depthOf line < line.length) ∧
      (interpret settings limit filename source store console).console.closed = true ∧
      (Machine.Ends ⟨program, settings⟩ limit { store, console := console.enter }
          (interpret settings limit filename source store console) ∨
        10 ^ Numeral.digitLimit ≤ settings.unit ∧
          Machine.BreaksOff ⟨program, settings⟩ limit { store, console := console.enter }
            (interpret settings limit filename source store console)) := by
  obtain ⟨program, hprogram⟩ : ∃ program, source.toProgram filename = .ok program := by
    cases source with
    | unusable => exact absurd rfl hsource
    | text | lines | program => exact ⟨_, rfl⟩
  refine ⟨program, hprogram, fun line _ => depthOf_lt_length, ?_, ?_⟩
  · rw [interpret, hprogram]
    exact Console.closed_close _
  · rw [interpret, hprogram]
    refine (Machine.ends_or_breaksOff hall rfl limit).imp_right fun hbreaks => ⟨?_, hbreaks⟩
    obtain ⟨_, _, -, -, hunworded, -⟩ := hbreaks
    exact hunworded.limit_le

/-- A division by zero on the second line of a program, reported on a console that had been
closed. -/
theorem interpret_ends_division :
    let source : Source := .lines [[], ['p', 'r', 'i', 'n', 't', ' ', '1', '/', '0']]
    let result := interpret .standard 5 "" source .empty { closed := true }
    Settings.standard.unsupported = [] ∧ source ≠ .unusable ∧
    result.console.output =
      "Line 2: print 1/0\nScriptArithmeticError: Division by zero\n" ∧
    ∃ program, source.toProgram "" = .ok program ∧
      (∀ line ∈ program.lines, allBlank line = false → depthOf line < line.length) ∧
      result.console.closed = true ∧ Machine.Ends ⟨program, .standard⟩ 5 { } result := by
  intro source result
  have hsource : source ≠ .unusable := nofun
  have houtput : result.console.output =
      "Line 2: print 1/0\nScriptArithmeticError: Division by zero\n" := by decide +kernel
  obtain ⟨program, hprogram, hlines, hclosed, hends⟩ :=
    @interpret_ends .standard source rfl hsource 5 "" .empty { closed := true }
  have hshort : Settings.standard.unit < 10 ^ Numeral.digitLimit :=
    Numeral.lt_limit_of_lt_ten (by decide)
  exact ⟨rfl, hsource, houtput, program, hprogram, hlines, hclosed,
    hends.resolve_right fun h => Nat.not_le.mpr hshort h.1⟩

/-- A program that starts with one space, run with an indent unit past the digit limit. -/
theorem interpret_of_limit_le {settings : Settings} (h : 10 ^ Numeral.digitLimit ≤ settings.unit) :
    let result := interpret settings 1 "" (.text [' ', 'p', 'r', 'i', 'n', 't', ' ', '1']) .empty {}
    result.verdict = .refused .digitLimit ∧ result.console.output = "" ∧
      result.console.closed = true := by
  let line : Text := [' ', 'p', 'r', 'i', 'n', 't', ' ', '1']
  let m : Machine := ⟨.ofText "" line, settings⟩
  have hline : (Program.ofText "" line).line? 0 = some line := by decide +kernel
  have hunworded : Unworded m.unit line := .of_limit_le h (by decide) (by decide) rfl
  have hstep : m.step {} = .failed {} .digitLimit := m.step_of_unworded hline rfl hunworded
  have hrun : m.run 1 {} = .failed {} .digitLimit := by rw [Machine.run, hstep]
  have hresult : interpret settings 1 "" (.text line) .empty {} =
      m.finish (.failed {} .digitLimit) := by
    rw [← hrun]
    rfl
  intro result
  rw [show result = _ from hresult]
  exact ⟨rfl, rfl, rfl⟩

/-- With an indent unit of one digit more than the limit, a program that starts with one space is
not run to an end, and no fault of it is reported. -/
theorem interpret_breaks_off :
    let settings : Settings := ⟨10 ^ Numeral.digitLimit, Nat.pow_pos (by decide), []⟩
    let source : Source := .text [' ', 'p', 'r', 'i', 'n', 't', ' ', '1']
    let result := interpret settings 1 "" source .empty {}
    settings.unsupported = [] ∧ source ≠ .unusable ∧ result.verdict = .refused .digitLimit ∧
      result.console.output = "" ∧ result.console.closed = true :=
  ⟨rfl, nofun, interpret_of_limit_le (Nat.le_refl _)⟩

end LineScript
