import LineScript.Proofs.Decimal
import LineScript.Proofs.Frame
import LineScript.Proofs.Sequence
import LineScript.Session

/-!
# The life of a console

The console of a session is opened and closed, written to and read from, by commands and by the
runs of programs. `Session.trail` lists all consoles that a sequence of commands leads through: the
one after each command, and within a run the ones after it has been opened, after each step, after
the report, and after it has been closed.

From one console of the trail to the next, nothing is written or read unless both are open
(`Console.Continues`). What a statement, a report or a reading does at an open console is a
`Console.Used`: it flushes the output once for each prompt and never closes the console. All other
flushes come from closing it, so in the end the flushes are the prompts and the closings
(`Console.Passage`, `Session.passage`).

What a run does is the same at every console with the same input (`interpret_behind`).
-/

namespace LineScript

open Text

/-! ### Prompts -/

namespace Console

/-- A line that asks for an integer. -/
def IsPrompt (line : String) : Prop := line = promptAgain ∨ ∃ name, line = prompt name

/-- How the prompt for a variable starts. -/
private def opening : Text := "Enter an integer number for variable ".toList

private theorem toList_prompt (name : Text) :
    (prompt name).toList = opening ++ (name ++ [':', ' ']) := by
  have hname : (Text.toString name).toList = name := String.toList_ofList
  have hstart : ("Enter an integer number for variable " ++ Text.toString name).toList =
      opening ++ name :=
    String.toList_append.trans (congrArg (opening ++ ·) hname)
  have hend : ": ".toList = [':', ' '] := by decide +kernel
  rw [← List.append_assoc, ← hstart, ← hend]
  exact String.toList_append

instance : DecidablePred IsPrompt := fun line =>
  -- The name is what is left when the opening and the last two characters are taken away.
  decidable_of_iff
    (line = promptAgain ∨ line = prompt ((line.toList.drop opening.length).dropLast.dropLast)) <| by
  refine or_congr_right ⟨fun h => ⟨_, h⟩, ?_⟩
  rintro ⟨name, rfl⟩
  rw [toList_prompt, List.drop_left, ← List.singleton_append, ← List.append_assoc]
  simp only [List.dropLast_concat]

theorem IsPrompt.head? {line : String} (h : IsPrompt line) :
    line.toList.head? = some 'P' ∨ line.toList.head? = some 'E' := by
  rcases h with rfl | ⟨name, rfl⟩
  · exact .inl (by decide +kernel)
  · have hhead : opening.head? = some 'E' := by decide +kernel
    rw [toList_prompt, List.head?_append, hhead]
    exact .inr rfl

theorem IsPrompt.blank_mem {line : String} (h : IsPrompt line) : ' ' ∈ line.toList := by
  rcases h with rfl | ⟨name, rfl⟩
  · decide +kernel
  · rw [toList_prompt]
    simp

theorem not_isPrompt_decimal (v : Int) : ¬IsPrompt (Text.toString (Numeral.decimal v)) := by
  intro h
  have hblank := h.blank_mem
  rw [Text.toString, String.toList_ofList] at hblank
  have hdecimal : isBlank ' ' = false := Numeral.isBlank_of_mem_decimal hblank
  have hspace : isBlank ' ' = true := by decide +kernel
  cases hdecimal.symm.trans hspace

theorem not_isPrompt_placeLine (e : ErrorReport) : ¬IsPrompt e.placeLine := by
  intro h
  simpa [ErrorReport.placeLine] using h.head?

theorem not_isPrompt_causeLine (e : ErrorReport) : ¬IsPrompt e.causeLine := by
  intro h
  have hhead := h.head?
  rw [ErrorReport.causeLine] at hhead
  revert hhead
  cases e.category <;> simp [Category.isFormal, Category.name]

/-! ### Using a console -/

/-- What statements, reports and readings may make of a console: they write lines and take input,
flush the output once for each prompt, and do nothing at all when the console is closed. -/
structure Used (c c' : Console) : Prop where
  written : ∃ lines, c'.written.toList = c.written.toList ++ lines ∧
    c'.flushes = c.flushes + lines.countP IsPrompt
  input : c'.input <:+ c.input
  closed : c'.closed = c.closed
  eq_of_closed : c.closed = true → c' = c

theorem Used.refl (c : Console) : c.Used c :=
  ⟨⟨[], by simp⟩, List.suffix_refl _, rfl, fun _ => rfl⟩

theorem Used.trans {c c' c'' : Console} (h : c.Used c') (h' : c'.Used c'') : c.Used c'' := by
  obtain ⟨lines, hwritten, hflushes⟩ := h.written
  obtain ⟨lines', hwritten', hflushes'⟩ := h'.written
  refine ⟨⟨lines ++ lines', ?_, ?_⟩, h'.input.trans h.input, h'.closed.trans h.closed, ?_⟩
  · rw [hwritten', hwritten, List.append_assoc]
  · rw [hflushes', hflushes, List.countP_append, Nat.add_assoc]
  · intro hclosed
    rw [h'.eq_of_closed (h.closed.trans hclosed), h.eq_of_closed hclosed]

theorem used_emit {c c' : Console} {line : String} (hline : ¬IsPrompt line)
    (h : c.emit line = .ok c') : c.Used c' := by
  rw [emit] at h
  split at h
  · cases h
  · rename_i hopen
    cases h
    refine ⟨⟨[line], Array.toList_push, ?_⟩, List.suffix_refl _, rfl, fun hclosed => ?_⟩
    · simp [write, hline]
    · exact absurd hclosed hopen

theorem used_writeReport {c c' : Console} {e : ErrorReport} (h : c.writeReport e = .ok c') :
    c.Used c' := by
  rw [writeReport] at h
  cases hplace : c.emit e.placeLine with
  | error cause =>
    rw [hplace] at h
    cases h
  | ok c₁ =>
    rw [hplace] at h
    exact (used_emit (not_isPrompt_placeLine e) hplace).trans
      (used_emit (not_isPrompt_causeLine e) h)

theorem used_report {c c' : Console} {e : ErrorReport} (h : c.report e = .ok c') : c.Used c' := by
  rw [report] at h
  split at h
  · exact used_writeReport h
  · cases h

theorem used_readInteger (c : Console) (name : Text) : c.Used (c.readInteger name).console := by
  cases hopen : c.closed with
  | true =>
    rw [readInteger, if_pos hopen]
    exact .refl c
  | false =>
    obtain ⟨again, input, hinput, hconsole⟩ := exists_console_readInteger hopen name
    have hagain : (List.replicate again promptAgain).countP IsPrompt = again := by
      simp [List.countP_replicate, IsPrompt]
    rw [hconsole]
    refine ⟨⟨prompt name :: List.replicate again promptAgain, ?_, ?_⟩, hinput, rfl, ?_⟩
    · simp [askAgain]
    · rw [List.countP_cons_of_pos (by simp [IsPrompt]), hagain]
      simp only [askAgain, ask, flush, write]
      omega
    · simp [hopen]

end Console

theorem World.used_perform (w : World) (action : Action) :
    w.console.Used (w.perform action).1.console := by
  cases action with
  | input target =>
    rw [perform]
    split
    · exact .refl _
    · dsimp only
      split <;> exact w.console.used_readInteger target
  | assignment target expression =>
    rw [perform]
    split
    · exact .refl _
    · split <;> exact .refl _
  | output expression =>
    rw [perform]
    cases evalArithmetic w.store expression with
    | error f => exact .refl _
    | ok value =>
      dsimp only [bind, Except.bind]
      split
      · exact .refl _
      · rename_i text htext
        split
        · exact .refl _
        · rename_i console hconsole
          rw [eq_decimal_of_formatInt htext] at hconsole
          exact Console.used_emit (Console.not_isPrompt_decimal value.toInt) hconsole
  | branch condition =>
    rw [perform]
    split <;> exact .refl _
  | jump expression =>
    rw [perform]
    split <;> exact .refl _

namespace Machine

variable {m : Machine} {s : State}

/-- **One step uses the console.** -/
theorem used_step (m : Machine) (s : State) : s.console.Used (m.step s).state.console := by
  cases h : m.statementAt? s with
  | none =>
    have hconsole : (m.step s).state.console = s.console := congrArg World.console (passed h).world
    rw [hconsole]
    exact .refl _
  | some statement =>
    have hconsole : (m.step s).state.console =
        (s.world.execute m.settings statement).1.console :=
      congrArg World.console (carried h).world
    rw [hconsole, World.execute]
    split
    · exact .refl _
    · exact s.world.used_perform statement.action

/-- So does the report on the outcome of a run. -/
theorem used_settle (m : Machine) (o : Outcome) :
    o.state.console.Used (m.settle o).2.console := by
  match o with
  | .running s => exact .refl _
  | .finished s => exact .refl _
  | .failed s cause =>
    cases cause with
    | script fault =>
      show s.console.Used (m.conclude s fault).2.console
      unfold conclude
      split
      · exact .refl _
      · dsimp only
        split
        · rename_i console hconsole
          exact Console.used_writeReport hconsole
        · exact .refl _
    | _ => exact .refl _

/-- The consoles after each of at most `n` steps. -/
def consoles (m : Machine) : Nat → State → List Console
  | 0, _ => []
  | n + 1, s =>
    match m.step s with
    | .running s' => s'.console :: m.consoles n s'
    | outcome => [outcome.state.console]

/-- The steps of a run use the console one after the other, up to the one that the run leaves. -/
theorem isChain_consoles (m : Machine) (n : Nat) (s : State) :
    (s.console :: m.consoles n s).IsChain Console.Used ∧
      (s.console :: m.consoles n s).getLast? = some (m.run n s).state.console := by
  induction n generalizing s with
  | zero => exact ⟨.singleton _, rfl⟩
  | succ n ih =>
    have hused := m.used_step s
    cases h : m.step s with
    | running s' =>
      obtain ⟨hchain, hlast⟩ := ih s'
      rw [h] at hused
      rw [consoles, h, run_succ_of_running h, List.getLast?_cons_cons]
      exact ⟨.cons_cons hused hchain, hlast⟩
    | finished s' | failed s' cause =>
      rw [h] at hused
      rw [consoles, h, run_succ_of_stop h nofun]
      exact ⟨.cons_cons hused (.singleton _), rfl⟩

end Machine

/-! ### Passages -/

namespace Console

/-- From one console to the next, nothing is lost of what has been written, and nothing is written
or read unless both are open. -/
structure Continues (c c' : Console) : Prop where
  written : c.written.toList <+: c'.written.toList
  input : c'.input <:+ c.input
  eq_of_closed : c.closed = true ∨ c'.closed = true →
    c'.written = c.written ∧ c'.input = c.input

theorem Used.continues {c c' : Console} (h : c.Used c') : c.Continues c' := by
  obtain ⟨lines, hwritten, -⟩ := h.written
  refine ⟨⟨lines, hwritten.symm⟩, h.input, fun hclosed => ?_⟩
  rw [h.closed, or_self] at hclosed
  rw [h.eq_of_closed hclosed]
  exact ⟨rfl, rfl⟩

theorem continues_enter (c : Console) : c.Continues c.enter :=
  ⟨List.prefix_refl _, List.suffix_refl _, fun _ => ⟨rfl, rfl⟩⟩

theorem continues_close (c : Console) : c.Continues c.close := by
  rw [close]
  split <;> exact ⟨List.prefix_refl _, List.suffix_refl _, fun _ => ⟨rfl, rfl⟩⟩

/-- How often an open console is followed by a closed one. -/
def closings : List Console → Nat
  | c :: c' :: cs => (if c.closed = false ∧ c'.closed = true then 1 else 0) + closings (c' :: cs)
  | _ => 0

/-- Lists of consoles that meet in one can be counted one after the other. -/
theorem closings_append (cs ds : List Console) (c : Console) :
    closings (cs ++ c :: ds) = closings (cs ++ [c]) + closings (c :: ds) := by
  induction cs with
  | nil => exact (Nat.zero_add _).symm
  | cons b cs ih =>
    cases cs with
    | nil => rfl
    | cons b' cs =>
      have hsplit := congrArg
        ((if b.closed = false ∧ b'.closed = true then 1 else 0) + ·) ih
      exact hsplit.trans (Nat.add_assoc _ _ _).symm

/-- The consoles that lead from one to another, on a way on which a number of prompts are written.
Each flush belongs to a prompt or to a closing. -/
structure Passage (prompts : Nat) (c : Console) (cs : List Console) (c' : Console) : Prop where
  chain : (c :: cs).IsChain Continues
  last : (c :: cs).getLast? = some c'
  flushes : c'.flushes = c.flushes + prompts + closings (c :: cs)

theorem Passage.nil (c : Console) : Passage 0 c [] c :=
  ⟨.singleton c, rfl, rfl⟩

theorem Passage.single {prompts : Nat} {c c' : Console} (h : c.Continues c')
    (hflushes : c'.flushes = c.flushes + prompts + closings [c, c']) :
    Passage prompts c [c'] c' :=
  ⟨.cons_cons h (.singleton c'), rfl, hflushes⟩

theorem Passage.append {prompts prompts' : Nat} {c c' c'' : Console} {cs ds : List Console}
    (h : Passage prompts c cs c') (h' : Passage prompts' c' ds c'') :
    Passage (prompts + prompts') c (cs ++ ds) c'' := by
  obtain ⟨before, hbefore⟩ := List.getLast?_eq_some_iff.mp h.last
  have hjoin : c :: (cs ++ ds) = before ++ c' :: ds := by
    rw [← List.cons_append, hbefore, List.append_assoc, List.singleton_append]
  obtain ⟨hchain, hlast, hflushes⟩ := h'
  refine ⟨?_, ?_, ?_⟩
  · rw [hjoin, List.isChain_split, ← hbefore]
    exact ⟨h.chain, hchain⟩
  · rw [hjoin, List.getLast?_append, hlast]
    rfl
  · rw [hjoin, closings_append, ← hbefore, hflushes, h.flushes]
    omega

/-- A passage on which some lines are written, and the output is flushed for each prompt among
them. -/
structure Written (lines : List String) (c : Console) (cs : List Console) (c' : Console) :
    Prop where
  written : c'.written.toList = c.written.toList ++ lines
  passage : Passage (lines.countP IsPrompt) c cs c'

theorem Written.nil (c : Console) : Written [] c [] c :=
  ⟨(List.append_nil _).symm, .nil c⟩

theorem Written.append {lines lines' : List String} {c c' c'' : Console} {cs ds : List Console}
    (h : Written lines c cs c') (h' : Written lines' c' ds c'') :
    Written (lines ++ lines') c (cs ++ ds) c'' := by
  refine ⟨by rw [h'.written, h.written, List.append_assoc], ?_⟩
  rw [List.countP_append]
  exact h.passage.append h'.passage

theorem Used.exists_written {c c' : Console} (h : c.Used c') :
    ∃ lines, Written lines c [c'] c' := by
  obtain ⟨lines, hwritten, hflushes⟩ := h.written
  refine ⟨lines, hwritten, .single h.continues ?_⟩
  simp [closings, h.closed, hflushes]

theorem written_same (c : Console) : Written [] c [c] c := by
  refine ⟨(List.append_nil _).symm, .single (Used.refl c).continues ?_⟩
  simp [closings]

/-- The lines written on a passage can be read off the consoles at its ends. -/
theorem Written.passage_drop {lines : List String} {c c' : Console} {cs : List Console}
    (h : Written lines c cs c') :
    Passage ((c'.written.toList.drop c.written.size).countP IsPrompt) c cs c' := by
  have hlines : c'.written.toList.drop c.written.size = lines := by
    rw [h.written]
    exact List.drop_left
  rw [hlines]
  exact h.passage

/-- A console that is used time and again is flushed for the prompts. -/
theorem exists_written_of_isChain {c c' : Console} {cs : List Console}
    (hchain : (c :: cs).IsChain Used) (hlast : (c :: cs).getLast? = some c') :
    ∃ lines, Written lines c cs c' := by
  induction cs generalizing c with
  | nil =>
    cases hlast
    exact ⟨[], .nil c⟩
  | cons d cs ih =>
    obtain ⟨hused, hrest⟩ := List.isChain_cons_cons.mp hchain
    rw [List.getLast?_cons_cons] at hlast
    obtain ⟨lines', hwritten'⟩ := ih hrest hlast
    obtain ⟨lines, hwritten⟩ := hused.exists_written
    exact ⟨lines ++ lines', hwritten.append hwritten'⟩

theorem passage_emit {c c' : Console} {line : String} (h : c.emit line = .ok c') :
    Passage 0 c [c'] c' := by
  rw [emit] at h
  split at h
  · cases h
  · rename_i hopen
    cases h
    refine .single ⟨?_, List.suffix_refl _, fun hclosed => ?_⟩ ?_
    · exact ⟨[line], Array.toList_push.symm⟩
    · exact absurd (or_self_iff.mp hclosed) hopen
    · simp [closings, write]

theorem written_enter (c : Console) : Written [] c [c.enter] c.enter := by
  refine ⟨(List.append_nil _).symm, .single c.continues_enter ?_⟩
  simp [closings, enter]

theorem written_close (c : Console) : Written [] c [c.close] c.close := by
  refine ⟨?_, .single c.continues_close ?_⟩
  · rw [close]
    split <;> exact (List.append_nil _).symm
  · cases hclosed : c.closed <;> simp [closings, close, flush, hclosed]

end Console

/-- The consoles through which a run passes, if it begins: opened, after each step, with the report,
and closed. -/
def runConsoles (settings : Settings) (limit : Nat) (filename : String) (source : Source)
    (store : Store) (console : Console) : List Console :=
  match source.toProgram filename with
  | .error _ => []
  | .ok program =>
    let m : Machine := ⟨program, settings⟩
    let start : State := { store, console := console.enter }
    let settled := (m.settle (m.run limit start)).2.console
    [console.enter] ++ (m.consoles limit start ++ [settled]) ++ [settled.close]

/-- **A run leads through its consoles to the one that it leaves.** The steps and the report use the
console, so all flushes but the one of closing it belong to prompts. -/
theorem exists_written_interpret (settings : Settings) (limit : Nat) (filename : String)
    (source : Source) (store : Store) (console : Console) :
    ∃ lines, Console.Written lines console
      (runConsoles settings limit filename source store console)
      (interpret settings limit filename source store console).console := by
  rw [interpret, runConsoles]
  cases source.toProgram filename with
  | error cause => exact ⟨[], .nil console⟩
  | ok program =>
    let m : Machine := ⟨program, settings⟩
    let start : State := { store, console := console.enter }
    obtain ⟨hchain, hlast⟩ := m.isChain_consoles limit start
    obtain ⟨lines, hsteps⟩ := Console.exists_written_of_isChain hchain hlast
    obtain ⟨report, hreport⟩ := (m.used_settle (m.run limit start)).exists_written
    exact ⟨_, (console.written_enter.append (hsteps.append hreport)).append
      (Console.written_close _)⟩

/-! ### Runs at different consoles -/

theorem Console.closed_after (c₁ c : Console) : (c₁.after c).closed = c.closed := rfl

theorem Console.close_after (c₁ c : Console) : (c₁.after c).close = c₁.after c.close := by
  rw [close, close, closed_after]
  split <;> rfl

theorem Console.after_new (c : Console) : c.after { input := c.input } = c.enter := by
  rw [after, Array.append_empty]
  rfl

/-- Puts what is written behind what has been. -/
def Translation.behind (c₁ : Console) : Translation :=
  { unchanged with
    console := c₁.after
    closed_console := c₁.closed_after
    console_write := c₁.after_write
    readInteger_console := c₁.readInteger_after }

theorem Machine.run_behind (m : Machine) (c₁ : Console) (n : Nat) (s : State) :
    m.run n ((Translation.behind c₁).state s) = (m.run n s).map (Translation.behind c₁).state := by
  refine run_map (P := fun _ => True) (fun s _ => ?_) (fun _ _ _ _ => trivial) trivial n
  refine Translation.step_state ⟨rfl, fun _ => rfl⟩ ?_ fun text statement _ _ => ?_
  · show m.view s.line s.depth = _
    cases m.view s.line s.depth <;> rfl
  · refine ⟨fun _ _ _ => rfl, fun _ _ _ => rfl, fun _ _ _ _ _ _ => rfl, fun _ depth target => ?_⟩
    show m.jumpIndex depth target = _
    cases m.jumpIndex depth target <;> rfl

/-- A report is written behind what has been, and the console closed. -/
theorem Console.close_report_after (c₁ c : Console) (lines : Array String) :
    Console.close { c₁.after c with written := (c₁.after c).written ++ lines } =
      c₁.after (Console.close { c with written := c.written ++ lines }) := by
  rw [← close_after, after, after, Array.append_assoc]

/-- What has been written before shows in the result of a run and nowhere else. -/
theorem Outcome.result_map_behind (c₁ : Console) (p : Program) (o : Outcome) :
    (o.map (Translation.behind c₁).state).result p =
      { o.result p with console := c₁.after (o.result p).console } := by
  match o with
  | .running s => exact congrArg (RunResult.mk _ _ · _) (c₁.close_report_after s.console #[])
  | .finished s => exact congrArg (RunResult.mk _ _ · _) (c₁.close_report_after s.console #[])
  | .failed s cause =>
    cases cause <;> exact congrArg (RunResult.mk _ _ · _) (c₁.close_report_after s.console _)

/-- **A run does the same at every console with the same input**, behind what has been written. -/
theorem interpret_behind {source : Source} {filename : String} {p : Program}
    (h : source.toProgram filename = .ok p) (settings : Settings) (limit : Nat) (store : Store)
    (console : Console) :
    let r := interpret settings limit filename source store { input := console.input }
    interpret settings limit filename source store console =
      { r with console := console.after r.console } := by
  have hprogram (c : Console) : interpret settings limit filename source store c =
      interpret settings limit filename (.program p) store c := by
    rw [interpret, h]
    rfl
  have hstart : (Translation.behind console).state
      { store, console := { input := console.input } } = { store, console := console.enter } := by
    rw [← console.after_new]
    rfl
  have hrun := Machine.run_behind ⟨p, settings⟩ console limit
    { store, console := { input := console.input } }
  rw [hstart] at hrun
  dsimp only
  rw [hprogram, hprogram, interpret_eq_result, interpret_eq_result, hrun]
  exact Outcome.result_map_behind console p _

/-- Two runs, each at a console of its own, that come to the same and write the same lines. -/
structure RunResult.Alike (c c' : Console) (r r' : RunResult) : Prop where
  verdict : r'.verdict = r.verdict
  store : r'.store = r.store
  journal : r'.journal = r.journal
  input : r'.console.input = r.console.input
  written : ∃ lines, r.console.written = c.written ++ lines ∧
    r'.console.written = c'.written ++ lines

theorem Source.toProgram_of_usable {source : Source} (h : source ≠ .unusable) (filename : String) :
    ∃ p, source.toProgram filename = .ok p := by
  cases source with
  | unusable => exact absurd rfl h
  | text | lines | program => exact ⟨_, rfl⟩

theorem interpret_unusable (settings : Settings) (limit : Nat) (filename : String) (store : Store)
    (console : Console) : interpret settings limit filename .unusable store console =
      ⟨.refused .unusableSource, store, console, #[]⟩ :=
  rfl

theorem interpret_alike {c c' : Console} (h : c'.input = c.input) (settings : Settings)
    (limit : Nat) (filename : String) (source : Source) (store : Store) :
    RunResult.Alike c c' (interpret settings limit filename source store c)
      (interpret settings limit filename source store c') := by
  by_cases hsource : source = .unusable
  · rw [hsource, interpret_unusable, interpret_unusable]
    exact ⟨rfl, rfl, rfl, h, #[], Array.append_empty.symm, Array.append_empty.symm⟩
  · obtain ⟨p, hp⟩ := Source.toProgram_of_usable hsource filename
    rw [interpret_behind hp settings limit store c, interpret_behind hp settings limit store c', h]
    exact ⟨rfl, rfl, rfl, rfl, _, rfl, rfl⟩

/-- A run that began has closed the console. -/
theorem closed_interpret {source : Source} (h : source ≠ .unusable) (settings : Settings)
    (limit : Nat) (filename : String) (store : Store) (console : Console) :
    (interpret settings limit filename source store console).console.closed = true := by
  obtain ⟨p, hp⟩ := Source.toProgram_of_usable h filename
  rw [interpret, hp]
  exact Console.closed_close _

/-! ### Sessions -/

namespace Command

/-- The program that a command runs, if it does. -/
def source? : Command → Option Source
  | run source | runFresh source => some source
  | _ => none

/-- Whether a command can only be carried out at an open console. -/
def needsOpen : Command → Bool
  | emit _ | read _ | report _ => true
  | _ => false

/-- Why a command that needs an open console is refused at a closed one: for this reason, unless it
is a report whose line number is too long to be written, which shows first. -/
def refusal : Command → Failure
  | report e => if e.isWritable then .consoleClosed else .digitLimit
  | _ => .consoleClosed

end Command

namespace Session

/-- The session after the last of some commands. -/
def after (limit : Nat) (s : Session) (commands : List Command) : Session :=
  ((s.performAll limit commands).getLast?.map (·.after)).getD s

theorem after_cons (limit : Nat) (s : Session) (command : Command) (commands : List Command) :
    s.after limit (command :: commands) = (s.perform limit command).1.after limit commands := by
  rw [after, performAll, List.getLast?_cons, after]
  cases ((s.perform limit command).1.performAll limit commands).getLast? <;> rfl

/-- The consoles through which a command leads, up to the one that it leaves. -/
def passing (limit : Nat) (s : Session) : Command → List Console
  | .run source => runConsoles s.settings limit Program.defaultName source s.store s.console
  | .runFresh source => runConsoles s.settings limit Program.defaultName source .empty s.console
  | command => [(s.perform limit command).1.console]

/-- The consoles through which some commands lead. -/
def trail (limit : Nat) (s : Session) : List Command → List Console
  | [] => []
  | command :: commands =>
    s.passing limit command ++ (s.perform limit command).1.trail limit commands

/-- The number of prompts that a command writes; a line that is written as it was given is none,
even if it reads like one. -/
def prompts (limit : Nat) (s : Session) : Command → Nat
  | .emit _ => 0
  | command =>
    ((s.perform limit command).1.console.written.toList.drop s.console.written.size).countP
      Console.IsPrompt

/-- The number of prompts that some commands write. -/
def promptsAll (limit : Nat) (s : Session) : List Command → Nat
  | [] => 0
  | command :: commands =>
    s.prompts limit command + (s.perform limit command).1.promptsAll limit commands

/-- One command leads from the console before it to the one after it. -/
theorem passage_perform (limit : Nat) (s : Session) (command : Command) :
    Console.Passage (s.prompts limit command) s.console (s.passing limit command)
      (s.perform limit command).1.console := by
  cases command with
  | run source =>
    obtain ⟨lines, hlines⟩ := exists_written_interpret s.settings limit Program.defaultName source
      s.store s.console
    exact hlines.passage_drop
  | runFresh source =>
    obtain ⟨lines, hlines⟩ := exists_written_interpret s.settings limit Program.defaultName source
      .empty s.console
    exact hlines.passage_drop
  | emit line =>
    show Console.Passage 0 s.console [(s.onConsole (s.console.emit line)).1.console]
      (s.onConsole (s.console.emit line)).1.console
    cases hemit : s.console.emit line with
    | error cause => exact s.console.written_same.passage
    | ok c => exact Console.passage_emit hemit
  | enter => exact s.console.written_enter.passage_drop
  | close => exact s.console.written_close.passage_drop
  | read name =>
    obtain ⟨lines, hlines⟩ := (s.console.used_readInteger name).exists_written
    exact hlines.passage_drop
  | report e =>
    have hused : s.console.Used (s.onConsole (s.console.report e)).1.console := by
      cases hreport : s.console.report e with
      | error cause => exact .refl s.console
      | ok c => exact Console.used_report hreport
    obtain ⟨lines, hlines⟩ := hused.exists_written
    exact hlines.passage_drop
  | store | evaluate | decide => exact s.console.written_same.passage_drop

/-- **So do all commands, one after the other.** -/
theorem passage (limit : Nat) (s : Session) (commands : List Command) :
    Console.Passage (s.promptsAll limit commands) s.console (s.trail limit commands)
      (s.after limit commands).console := by
  induction commands generalizing s with
  | nil => exact .nil s.console
  | cons command commands ih =>
    rw [after_cons]
    exact (s.passage_perform limit command).append (ih (s.perform limit command).1)

/-- A closed console refuses to be written to or read from, and nothing changes. -/
theorem perform_of_closed {limit : Nat} {s : Session} {command : Command}
    (hcommand : command.needsOpen = true) (hclosed : s.console.closed = true) :
    s.perform limit command = (s, .error command.refusal) := by
  have hemit (line : String) : s.console.emit line = .error .consoleClosed := if_pos hclosed
  cases command with
  | emit line =>
    rw [perform, hemit]
    rfl
  | read name =>
    rw [perform, Console.readInteger, if_pos hclosed]
    rfl
  | report e =>
    rw [perform, Console.report, Console.writeReport, hemit, Command.refusal]
    split <;> rfl
  | _ => cases hcommand

theorem closed_perform_of_source {limit : Nat} {s : Session} {command : Command} {source : Source}
    (hcommand : command.source? = some source) (hsource : source ≠ .unusable) :
    (s.perform limit command).1.console.closed = true := by
  cases command with
  | run | runFresh =>
    cases hcommand
    exact closed_interpret hsource _ _ _ _ _
  | _ => cases hcommand

theorem perform_of_unusable {limit : Nat} {s : Session} {command : Command}
    (hcommand : command.source? = some .unusable) :
    s.perform limit command = (s, .error .unusableSource) := by
  cases command with
  | run | runFresh =>
    cases hcommand
    rfl
  | _ => cases hcommand

/-- What comes of a command in one session and in another: the same reply, values of variables, rest
of the input and lines written. -/
structure Alike (s t : Session) (r r' : Session × Except Failure Reply) : Prop where
  reply : r'.2 = r.2
  store : r'.1.store = r.1.store
  input : r'.1.console.input = r.1.console.input
  written : ∃ lines, r.1.console.written = s.console.written ++ lines ∧
    r'.1.console.written = t.console.written ++ lines

theorem alike_perform {s t : Session} {command : Command} {source : Source} (limit : Nat)
    (hcommand : command.source? = some source) (hsettings : t.settings = s.settings)
    (hstore : t.store = s.store) (hinput : t.console.input = s.console.input) :
    Alike s t (s.perform limit command) (t.perform limit command) := by
  cases command with
  | run =>
    cases hcommand
    have halike := interpret_alike hinput s.settings limit Program.defaultName source s.store
    rw [perform, perform, hsettings, hstore, halike.verdict]
    exact ⟨rfl, halike.store, halike.input, halike.written⟩
  | runFresh =>
    cases hcommand
    have halike := interpret_alike hinput s.settings limit Program.defaultName source .empty
    rw [perform, perform, hsettings, halike.verdict, halike.store]
    exact ⟨rfl, hstore, halike.input, halike.written⟩
  | _ => cases hcommand

/-- **The life of a console in a session.** Let any commands be carried out. From each console on
their trail to the next, nothing is written or read unless both are open; and the output has been
flushed once for each prompt and once for each closing. Then let one more command follow. At a
closed console, writing, reading and reporting are refused and change nothing. A run that begins
leaves the console closed, and one that is refused for want of a program changes nothing. And a run
gives the same reply, leaves the same values and input and writes the same lines in every session
with these settings, values and input, whatever has happened there. -/
theorem console_lifecycle (limit : Nat) (s : Session) (commands : List Command) :
    let trail := s.console :: s.trail limit commands
    let t := s.after limit commands
    (trail.IsChain Console.Continues ∧ trail.getLast? = some t.console ∧
      t.console.flushes =
        s.console.flushes + s.promptsAll limit commands + Console.closings trail) ∧
    (∀ command : Command, command.needsOpen = true → t.console.closed = true →
      t.perform limit command = (t, .error command.refusal)) ∧
    ∀ (command : Command) (source : Source), command.source? = some source →
      (source ≠ .unusable → (t.perform limit command).1.console.closed = true) ∧
      (source = .unusable → t.perform limit command = (t, .error .unusableSource)) ∧
      ∀ u : Session, u.settings = t.settings → u.store = t.store →
        u.console.input = t.console.input →
          Alike t u (t.perform limit command) (u.perform limit command) := by
  intro trail t
  obtain ⟨hchain, hlast, hflushes⟩ := s.passage limit commands
  refine ⟨⟨hchain, hlast, hflushes⟩, fun command => perform_of_closed, ?_⟩
  intro command source hcommand
  refine ⟨closed_perform_of_source hcommand, ?_, fun u => alike_perform limit hcommand⟩
  rintro rfl
  exact perform_of_unusable hcommand

/-- A line is lost at a closed console, a run opens it for two prompts, and a line that reads like a
prompt is none. After the third closing, a run does what it does at a new console. -/
theorem console_lifecycle_reopened :
    let program : Source := .lines [['i', 'n', 'p', 'u', 't', ' ', 'n'],
      ['p', 'r', 'i', 'n', 't', ' ', 'n', '+', '1']]
    let s : Session := ⟨.standard, { input := [['x'], ['5'], ['7']] }, .empty⟩
    let commands : List Command := [.close, .emit "lost", .run program, .enter,
      .emit Console.promptAgain, .read ['k'], .close]
    let u : Session := ⟨(s.after 9 commands).settings, {}, (s.after 9 commands).store⟩
    s.promptsAll 9 commands = 3 ∧ Console.closings (s.console :: s.trail 9 commands) = 3 ∧
    (s.after 9 commands).console.flushes = 6 ∧
    (s.after 9 commands).perform 9 (.read ['k']) = (s.after 9 commands, .error .consoleClosed) ∧
    (s.after 9 commands).perform 9 (.run .unusable) =
      (s.after 9 commands, .error .unusableSource) ∧
    ((s.after 9 commands).perform 9 (.run program)).1.console.closed = true ∧
    Alike (s.after 9 commands) u ((s.after 9 commands).perform 9 (.run program))
      (u.perform 9 (.run program)) := by
  intro program s commands u
  obtain ⟨-, hrefused, hrun⟩ := console_lifecycle 9 s commands
  have hclosed : (s.after 9 commands).console.closed = true := by decide +kernel
  have hinput : u.console.input = (s.after 9 commands).console.input := by decide +kernel
  obtain ⟨hends, -, halike⟩ := hrun (.run program) program rfl
  obtain ⟨-, hunusable, -⟩ := hrun (.run .unusable) .unusable rfl
  refine ⟨by decide +kernel, by decide +kernel, by decide +kernel, ?_, hunusable rfl, ?_, ?_⟩
  · exact hrefused (.read ['k']) rfl hclosed
  · exact hends nofun
  · exact halike u rfl rfl hinput

end Session

end LineScript
