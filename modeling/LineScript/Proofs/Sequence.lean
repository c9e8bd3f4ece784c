import LineScript.Proofs.Lines
import LineScript.Proofs.Lockstep
import LineScript.Proofs.Progress
import LineScript.Proofs.Verdict

/-!
# Programs one after the other

The lines of two programs, one behind the other, are a program that does what the two do in
succession, if the second one holds no jumps and starts at depth zero. A run of it has two parts.

* As long as the first program goes on, the whole does the same (`Machine.step_append_left`): no
  jump that leads to one of its lines leads elsewhere now.
* The lines of the second program are executed as they would be by themselves, a number of places
  further down (`Machine.run_append_right`). The first program may leave the machine in a block of
  any depth, but the first line that is not blank is not indented and ends it
  (`Machine.endsAlike_arrival`).
-/

namespace LineScript

open Text

/-! ### Joining programs -/

namespace Program

/-- The lines of a program, followed by those of another. -/
def append (p q : Program) : Program := .ofEnded p.filename (p.lines ++ q.lines).toList

variable {p q : Program} {i : Nat} {line : Text}

theorem lines_append : (p.append q).lines = p.lines ++ q.lines := by
  have hbreak : ∀ line ∈ (p.lines ++ q.lines).toList, ∀ c ∈ line, isBreak c = false := by
    intro line hline
    rw [Array.toList_append, List.mem_append] at hline
    exact hline.elim (p.isBreak_of_mem_line line) (q.isBreak_of_mem_line line)
  rw [append, lines_ofEnded hbreak, Array.toArray_toList]

theorem line?_append_left (h : p.line? i = some line) : (p.append q).line? i = some line := by
  obtain ⟨hlt, -⟩ := Array.getElem?_eq_some_iff.mp h
  rw [line?, lines_append, Array.getElem?_append_left hlt]
  exact h

theorem line?_append_right (i : Nat) : (p.append q).line? (i + p.size) = q.line? i := by
  rw [line?, lines_append, size, Array.getElem?_append_right (Nat.le_add_left _ _),
    Nat.add_sub_cancel]
  rfl

end Program

namespace Machine

variable {p q : Program} {settings : Settings} {s s' t : State}

/-! ### The first program -/

/-- A jump within the first program leads to the same line. -/
theorem jumpIndex_append {depth index : Nat} {target : Int}
    (h : jumpIndex ⟨p, settings⟩ depth target = .ok index) :
    jumpIndex ⟨p.append q, settings⟩ depth target = .ok index := by
  unfold jumpIndex at h ⊢
  by_cases hlow : target < 1
  · rw [if_pos hlow] at h
    cases h
  · rw [if_neg hlow] at h ⊢
    dsimp only at h ⊢
    cases hline : p.line? (target.toNat - 1) with
    | none =>
      rw [hline] at h
      cases h
    | some line =>
      rw [hline] at h
      rw [Program.line?_append_left hline]
      exact h

/-- A statement that succeeds finds the line to which it jumps. -/
theorem exists_jumpIndex {m : Machine} {statement : Statement} {expression : Text} {value : Value}
    {target : Option Nat} (haction : statement.action = .jump expression)
    (hvalue : evalArithmetic s.store expression = .ok value)
    (hresult : (m.execStatement s statement).result = .ok target) :
    ∃ index, m.jumpIndex s.depth value.toInt = .ok index := by
  have hturn := (m.execStatement_performs s statement).result
  rw [hresult] at hturn
  cases hexec : (s.world.execute m.settings statement).2 with
  | error cause =>
    rw [hexec] at hturn
    cases hturn
  | ok turn =>
    have hperform := hexec
    rw [World.execute_eq_perform hexec, haction, World.perform] at hperform
    dsimp only [State.world] at hperform
    rw [hvalue] at hperform
    cases hperform
    rw [hexec] at hturn
    cases hindex : m.jumpIndex s.depth value.toInt with
    | ok index => exact ⟨index, rfl⟩
    | error f =>
      have hfollow : m.follow s.depth (.jump value.toInt) = .error (.script f) := by
        rw [follow, hindex]
        rfl
      cases hturn.trans hfollow

/-- A step of the first program that goes on is a step of the whole. -/
theorem step_append_left (h : step ⟨p, settings⟩ s = .running s') :
    step ⟨p.append q, settings⟩ s = .running s' := by
  rw [step_eq_react] at h ⊢
  have hview : view ⟨p.append q, settings⟩ s.line s.depth = view ⟨p, settings⟩ s.line s.depth := by
    rw [view, view]
    cases hline : p.line? s.line with
    | none =>
      rw [view, hline] at h
      cases h
    | some line => rw [Program.line?_append_left hline]; rfl
  rw [hview]
  cases hseen : view ⟨p, settings⟩ s.line s.depth with
  | here text =>
    rw [hseen] at h
    have hdispatched := dispatched ⟨p, settings⟩ s text
    have hrunning : dispatch ⟨p, settings⟩ s text = .running s' := h
    rw [hrunning] at hdispatched
    cases hdispatched with
    | @completed statement target hparse hresult =>
      have hsettings :
          (Machine.mk (p.append q) settings).settings = (Machine.mk p settings).settings := rfl
      refine Eq.trans (dispatch_congr fun statement' hparse' => ?_) h
      cases hparse'.symm.trans hparse
      refine execStatement_congr hsettings statement fun expression value haction hvalue => ?_
      obtain ⟨index, hindex⟩ := exists_jumpIndex haction hvalue hresult
      rw [hindex, jumpIndex_append hindex]
  | _ =>
    rw [hseen] at h
    exact h

theorem Reaches.append (h : Reaches ⟨p, settings⟩ s t) : Reaches ⟨p.append q, settings⟩ s t :=
  Relation.ReflTransGen.mono (fun _ _ => step_append_left) _ _ h

/-- When the first program has come to its end, the whole stands at the first line of the second. -/
theorem reaches_append_of_finished {n : Nat} (hs : Placed ⟨p, settings⟩ s)
    (h : run ⟨p, settings⟩ n s = .finished t) :
    Reaches ⟨p.append q, settings⟩ s t ∧ t.line = p.size := by
  have hplaced : Placed ⟨p, settings⟩ t := by
    have hkept := run_state_induction (fun _ => Placed.step) hs n
    rwa [h] at hkept
  have hhalts : Halts ⟨p, settings⟩ s (.finished t) := ⟨nofun, n, h⟩
  obtain ⟨t', hreach, hstep⟩ := hhalts.exists_step
  cases hat : statementAt? ⟨p, settings⟩ t' with
  | some statement =>
    have hcarried := carried hat
    rw [hstep] at hcarried
    cases hcarried
  | none =>
    have hpassed := passed hat
    rw [hstep] at hpassed
    cases hpassed with
    | finished hnone =>
      have hge : p.size ≤ t.line := Array.getElem?_eq_none_iff.mp hnone
      exact ⟨hreach.append, Nat.le_antisymm hplaced.line_le hge⟩

end Machine

/-! ### The second program -/

namespace Console

/-- A console on which all has been written behind what is on another. -/
def after (c₁ c : Console) : Console :=
  { c with written := c₁.written ++ c.written, flushes := c₁.flushes + c.flushes }

theorem output_after (c₁ c : Console) : (c₁.after c).output = c₁.output ++ c.output :=
  joinLines_append _ _

theorem after_write (c₁ c : Console) (line : String) :
    c₁.after (c.write line) = (c₁.after c).write line := by
  simp only [after, write, Array.append_push]

theorem after_ask (c₁ c : Console) (line : String) :
    c₁.after (c.ask line) = (c₁.after c).ask line := by
  rw [ask, ask, ← after_write]
  rfl

theorem awaitInteger_after (name : Text) (lines : List Text) (c₁ c : Console) :
    awaitInteger name lines (c₁.after c) =
      { awaitInteger name lines c with
        console := c₁.after (awaitInteger name lines c).console } := by
  induction lines generalizing c with
  | nil => rfl
  | cons line lines ih =>
    rw [awaitInteger, awaitInteger]
    cases Numeral.entry (Text.trim line) with
    | integer value => rfl
    | tooLong length =>
      dsimp only
      rw [← after_ask, ih]
    | other =>
      dsimp only
      rw [← after_ask, ih]

theorem readInteger_after (c₁ c : Console) (name : Text) :
    (c₁.after c).readInteger name =
      { c.readInteger name with console := c₁.after (c.readInteger name).console } := by
  rw [readInteger, readInteger]
  have hclosed : (c₁.after c).closed = c.closed := rfl
  rw [hclosed]
  split
  · rfl
  · rw [← after_ask]
    exact awaitInteger_after name c.input c₁ _

end Console

/-- Moves lines down by a number of places, and puts what is written and noted behind what has
been. -/
def displacing (shift : Nat) (c₁ : Console) (j₁ : Journal) : Translation where
  shift := shift
  depth := id
  store := id
  console := c₁.after
  journal j := j₁ ++ j.map (Event.translate shift id)
  journal_push j e := by rw [Array.map_push, Array.append_push]
  closed_console _ := rfl
  console_write := c₁.after_write
  readInteger_console := c₁.readInteger_after

/-- Two outcomes are of the same sort, the second one a number of places further down and with its
output behind that of a console. Blocks may be of different depths. -/
inductive Outcome.Behind (shift : Nat) (c₁ : Console) : Outcome → Outcome → Prop where
  | finished {s s' : State} :
      s'.store = s.store → s'.console = c₁.after s.console →
      Behind shift c₁ (.finished s) (.finished s')
  | failed {s s' : State} {cause : Failure} :
      s'.line = s.line + shift → s'.store = s.store → s'.console = c₁.after s.console →
      Behind shift c₁ (.failed s cause) (.failed s' cause)

namespace Machine

variable {p q : Program} {settings : Settings}

theorem view_append_right (i depth : Nat) :
    view ⟨p.append q, settings⟩ (i + p.size) depth = view ⟨q, settings⟩ i depth := by
  rw [view, view, Program.line?_append_right]
  rfl

/-- The second program is executed as by itself, further down. -/
theorem run_append_right (hq : ∀ line ∈ q.lines, kindOf? line ≠ some .jump) (c₁ : Console)
    (j₁ : Journal) (n : Nat) (s : State) :
    run ⟨p.append q, settings⟩ n ((displacing p.size c₁ j₁).state s) =
      (run ⟨q, settings⟩ n s).map (displacing p.size c₁ j₁).state := by
  have hfits : (displacing p.size c₁ j₁).Fits ⟨q, settings⟩ ⟨p.append q, settings⟩ :=
    ⟨rfl, fun _ => rfl⟩
  refine run_map (P := fun _ => True) (fun s _ => ?_) (fun _ _ _ _ => trivial) trivial n
  refine Translation.step_state hfits ?_ fun text statement hview hparse => ?_
  · refine (view_append_right s.line s.depth).trans ?_
    cases view ⟨q, settings⟩ s.line s.depth <;> rfl
  · obtain ⟨line, hline, rfl⟩ := exists_line_of_view hview
    have hkind := hq line (Array.mem_of_getElem? hline)
    rw [kindOf?_of_parse hparse] at hkind
    exact ⟨fun _ _ _ => rfl, fun _ _ _ => rfl, fun _ _ _ _ _ _ => rfl,
      fun hjump => absurd (congrArg some hjump) hkind⟩

/-- The second program comes to an end from one state, and the whole ends in the same way from
another, with its output behind that of a console. -/
def EndsAlike (settings : Settings) (p q : Program) (c₁ : Console) (s t : State) : Prop :=
  ∃ o o', Halts ⟨q, settings⟩ s o ∧ Halts ⟨p.append q, settings⟩ t o' ∧ o.Behind p.size c₁ o'

/-- The state of the whole in a block of some depth, where the second program by itself is in a
given state. -/
def arrival (p : Program) (c₁ : Console) (j₁ : Journal) (depth : Nat) (s : State) : State :=
  { (displacing p.size c₁ j₁).state s with depth }

variable {c₁ : Console} {j₁ : Journal} {depth : Nat} {s : State} {line : Text}

theorem step_arrival : step ⟨p.append q, settings⟩ (arrival p c₁ j₁ depth s) =
    react ⟨p.append q, settings⟩ (arrival p c₁ j₁ depth s) (view ⟨q, settings⟩ s.line depth) :=
  (step_eq_react _ _).trans (congrArg _ (view_append_right s.line depth))

/-- A program without jumps comes to an end, and so does the whole when nothing is left over of the
blocks of the first program. -/
theorem endsAlike_displacing (hq : ∀ line ∈ q.lines, kindOf? line ≠ some .jump) (c₁ : Console)
    (j₁ : Journal) (s : State) :
    EndsAlike settings p q c₁ s ((displacing p.size c₁ j₁).state s) := by
  have hback (t : State) : ¬JumpsBack ⟨q, settings⟩ t := by
    rintro ⟨target, htarget, -⟩
    obtain ⟨line, hline, hkind⟩ := exists_jump_of_jumpTarget? htarget
    exact hq line hline hkind
  obtain ⟨o, hstop, n, hn⟩ : ∃ o, Halts ⟨q, settings⟩ s o :=
    halts_of_not_jumpsBack fun t _ => hback t
  have hrun : run ⟨p.append q, settings⟩ n _ = _ := run_append_right hq c₁ j₁ n s
  rw [hn] at hrun
  cases o with
  | running t => exact absurd rfl (hstop t)
  | finished t =>
    refine ⟨.finished t, .finished ((displacing p.size c₁ j₁).state t), ⟨hstop, n, hn⟩, ?_, ?_⟩
    · exact ⟨nofun, n, hrun⟩
    · exact .finished rfl rfl
  | failed t cause =>
    refine ⟨.failed t cause, .failed ((displacing p.size c₁ j₁).state t) cause, ⟨hstop, n, hn⟩,
      ?_, ?_⟩
    · exact ⟨nofun, n, hrun⟩
    · exact .failed rfl rfl rfl

/-- A line without indentation ends the blocks that are left over, unless it is at fault. -/
theorem endsAlike_of_line (hq : ∀ line ∈ q.lines, kindOf? line ≠ some .jump)
    (hline : q.line? s.line = some line) (hblank : allBlank line = false)
    (hzero : depthOf line = 0) (hdepth : s.depth = 0) (hjournal : s.journal = #[]) :
    EndsAlike settings p q c₁ s (arrival p c₁ j₁ depth s) := by
  have hview (d : Nat) : view ⟨q, settings⟩ s.line d = viewLine settings.unit d line := by
    rw [view, hline]
    rfl
  cases hfault : indentFailure? settings.unit line with
  | some cause =>
    have hfaulty (d : Nat) : view ⟨q, settings⟩ s.line d = .faulty cause := by
      rw [hview, viewLine, hblank, hfault]
      rfl
    refine ⟨.failed s cause, .failed (arrival p c₁ j₁ depth s) cause, .failed ?_,
      .failed ?_, .failed rfl rfl rfl⟩
    · rw [step_eq_react, hfaulty]
      rfl
    · rw [step_arrival, hfaulty]
      rfl
  | none =>
    rcases Nat.eq_zero_or_pos depth with rfl | hpos
    · have hsame : arrival p c₁ j₁ 0 s = (displacing p.size c₁ j₁).state s := by
        rw [arrival, ← hdepth]
        rfl
      rw [hsame]
      exact endsAlike_displacing hq c₁ j₁ s
    · have hleave : view ⟨q, settings⟩ s.line depth = .shallower 0 := by
        rw [hview, viewLine, hblank, hfault]
        simp [hzero, hpos]
      obtain ⟨o, o', ho, ho', hbehind⟩ := endsAlike_displacing hq c₁ (j₁.push (.left depth 0)) s
      refine ⟨o, o', ho, .of_running ?_ ho', hbehind⟩
      rw [step_arrival, hleave, react]
      simp [State.note, arrival, Translation.state, displacing, hjournal, hdepth]

/-- **The whole ends as the second program does**, whatever the depth of the block in which it
arrives at its lines. Blank lines are passed over on both sides, up to the first line that is not
blank. -/
theorem endsAlike_arrival (hq : ∀ line ∈ q.lines, kindOf? line ≠ some .jump) {lines : List Text}
    (hlines : q.lines.toList.drop s.line = lines)
    (hfirst : ∀ line ∈ lines.find? (!allBlank ·), depthOf line = 0)
    (hdepth : s.depth = 0) (hjournal : s.journal = #[]) :
    EndsAlike settings p q c₁ s (arrival p c₁ j₁ depth s) := by
  induction lines generalizing s with
  | nil =>
    have hview (d : Nat) : view ⟨q, settings⟩ s.line d = .nothing := by
      have hnone : q.line? s.line = none := by
        rw [Program.line?, Array.getElem?_eq_none_iff]
        simpa using hlines
      rw [view, hnone]
    refine ⟨.finished s, .finished (arrival p c₁ j₁ depth s), .finished ?_, .finished ?_,
      .finished rfl rfl⟩
    · rw [step_eq_react, hview]
      rfl
    · rw [step_arrival, hview]
      rfl
  | cons line lines ih =>
    have hline : q.line? s.line = some line := by
      have hhead := congrArg List.head? hlines
      rwa [List.head?_drop, Array.getElem?_toList] at hhead
    cases hblank : allBlank line with
    | true =>
      have hpass (d : Nat) : view ⟨q, settings⟩ s.line d = .pass := by
        rw [view, hline]
        exact if_pos hblank
      have hrest : q.lines.toList.drop (s.line + 1) = lines := by
        rw [← List.tail_drop, hlines, List.tail_cons]
      rw [List.find?_cons_of_neg (by simp [hblank])] at hfirst
      obtain ⟨o, o', ho, ho', hbehind⟩ := ih (s := s.advance) hrest hfirst hdepth hjournal
      refine ⟨o, o', .of_running ?_ ho, .of_running ?_ ho', hbehind⟩
      · rw [step_eq_react, hpass]
        rfl
      · rw [step_arrival, hpass, arrival, arrival, Translation.state_advance]
        rfl
    | false =>
      rw [List.find?_cons_of_pos (by simp [hblank])] at hfirst
      exact endsAlike_of_line hq hline hblank (hfirst line rfl) hdepth hjournal

/-- When the first program has come to its end, the whole goes on to end as the second program does
with the variables and the input that are left. -/
theorem endsAlike_of_finished {n : Nat} {t : State} (hs : Placed ⟨p, settings⟩ s)
    (hopen : s.console.closed = false) (ht : run ⟨p, settings⟩ n s = .finished t)
    (hq : ∀ line ∈ q.lines, kindOf? line ≠ some .jump)
    (hfirst : ∀ line ∈ q.lines.toList.find? (!allBlank ·), depthOf line = 0) :
    EndsAlike settings p q t.console
      { store := t.store, console := { input := t.console.input } } s := by
  obtain ⟨hreach, hline⟩ := reaches_append_of_finished hs ht
  have hclosed : t.console.closed = false := by
    have hkept := closed_run ⟨p, settings⟩ s n
    rw [ht] at hkept
    exact hkept.trans hopen
  have hconsole : t.console.after { input := t.console.input } = t.console := by
    rw [Console.after, Array.append_empty, ← hclosed]
    rfl
  have harrival : t = arrival p t.console t.journal t.depth
      { store := t.store, console := { input := t.console.input } } := by
    obtain ⟨line, depth, store, console, journal⟩ := t
    simp only [arrival, Translation.state, displacing] at hline hconsole ⊢
    simp [hline, hconsole]
  have halike : EndsAlike settings p q t.console _ (arrival p t.console t.journal t.depth
      { store := t.store, console := { input := t.console.input } }) :=
    endsAlike_arrival hq List.drop_zero hfirst rfl rfl
  rw [← harrival] at halike
  obtain ⟨o, o', ho, ho', hbehind⟩ := halike
  exact ⟨o, o', ho, hreach.halts ho', hbehind⟩

end Machine

/-! ### Runs -/

/-- The verdict with its line moved down by a number of places. -/
def Verdict.shift (n : Nat) : Verdict → Verdict
  | error report => error { report with lineNumber := report.lineNumber.map (· + n) }
  | verdict => verdict

/-- A run, `whole`, does what two runs do of which the second one continues the first, whose program
has `size` lines. -/
structure RunResult.Continues (size : Nat) (first second whole : RunResult) : Prop where
  store : whole.store = second.store
  input : whole.console.input = second.console.input
  verdict : whole.verdict = second.verdict.shift size
  output : ∃ text, second.console.output = text ++ second.verdict.reportText ∧
    whole.console.output = first.console.output ++ text ++ whole.verdict.reportText

theorem Outcome.Behind.verdict {p q : Program} {c₁ : Console} {o o' : Outcome}
    (h : o.Behind p.size c₁ o') : o'.verdict (p.append q) = (o.verdict q).shift p.size := by
  cases h with
  | finished _ _ => rfl
  | @failed s s' cause hline _ _ =>
    cases cause with
    | script fault =>
      have hnumber : ((s.line + p.size : Nat) : Int) + 1 = s.line + 1 + p.size := by omega
      rw [Outcome.verdict, Outcome.verdict, hline, Program.line?_append_right, Verdict.shift,
        ErrorReport.atLine, hnumber]
      rfl
    | _ => rfl

theorem Outcome.Behind.state {shift : Nat} {c₁ : Console} {o o' : Outcome}
    (h : o.Behind shift c₁ o') :
    o'.state.store = o.state.store ∧ o'.state.console = c₁.after o.state.console := by
  cases h with
  | finished hstore hconsole => exact ⟨hstore, hconsole⟩
  | failed _ hstore hconsole => exact ⟨hstore, hconsole⟩

/-- Two outcomes of which one is behind the other have results of which one continues the other. -/
theorem Outcome.Behind.continues {p q : Program} {c₁ : Console} {o o' : Outcome}
    (h : o.Behind p.size c₁ o') {first : RunResult} (hfirst : first.console.output = c₁.output) :
    RunResult.Continues p.size first (o.result q) (o'.result (p.append q)) := by
  obtain ⟨hstore, hconsole⟩ := h.state
  refine ⟨hstore, ?_, h.verdict, o.state.console.output, Outcome.output_result q o, ?_⟩
  · rw [Outcome.input_result, Outcome.input_result, hconsole]
    rfl
  · rw [Outcome.output_result, hconsole, Console.output_after, hfirst]
    rfl

/-- A run has ended if and only if its verdict says so. -/
theorem Machine.halts_run_iff {m : Machine} {s : State} {p : Program} {n : Nat} :
    m.Halts s (m.run n s) ↔ ((m.run n s).result p).verdict ≠ .unfinished := by
  have hverdict : ((m.run n s).result p).verdict = .unfinished ↔ ∃ t, m.run n s = .running t :=
    Outcome.verdict_eq_unfinished_iff
  rw [ne_eq, hverdict, not_exists]
  exact ⟨fun h => h.1, fun h => ⟨h, n, rfl⟩⟩

/-- **Programs compose.** Let the run of a program end without an error, and let another program
hold no jumps and start, blank lines aside, with a line that is not indented. Then the second one,
run with the variables and the input that the first one has left, comes to an end, and so does the
program made of the lines of both. It leaves the same variables and the same input as the second
run, its output is that of the first run followed by that of the second, and if it stops with an
error, it is that of the second run with its line counted from the start of the whole, also where it
is reported. -/
theorem interpret_append (settings : Settings) (p q : Program) (store : Store) (console : Console)
    (limit : Nat) (filename : String)
    (hfirst : (interpret settings limit filename (.program p) store console).verdict = .ok)
    (hjump : ∀ line ∈ q.lines, kindOf? line ≠ some .jump)
    (hdepth : ∀ line ∈ q.lines.toList.find? (!allBlank ·), depthOf line = 0) :
    let first := interpret settings limit filename (.program p) store console
    let second k := interpret settings k filename (.program q) first.store
      { input := first.console.input }
    let whole k := interpret settings k filename (.program (p.append q)) store console
    (∃ k, (second k).verdict ≠ .unfinished) ∧ (∃ k, (whole k).verdict ≠ .unfinished) ∧
      ∀ k l, (second k).verdict ≠ .unfinished → (whole l).verdict ≠ .unfinished →
        RunResult.Continues p.size first (second k) (whole l) := by
  intro first second whole
  have hresult : first = _ := interpret_eq_result settings limit filename p store console
  have hfinished : ∃ t, Machine.run ⟨p, settings⟩ limit _ = .finished t :=
    Outcome.verdict_eq_ok_iff.mp ((congrArg RunResult.verdict hresult).symm.trans hfirst)
  obtain ⟨t, ht⟩ := hfinished
  rw [ht] at hresult
  have hinput : first.console.input = t.console.input := by rw [hresult, Outcome.input_result]; rfl
  have hstore : first.store = t.store := by rw [hresult]; rfl
  have houtput : first.console.output = t.console.output := by
    rw [hresult, Outcome.output_result]
    exact String.append_empty
  have hsecond (k : Nat) : second k = _ := interpret_eq_result settings k filename q _ _
  have hwhole (k : Nat) : whole k = _ :=
    interpret_eq_result settings k filename (p.append q) store console
  rw [hstore, hinput] at hsecond
  obtain ⟨o, o', ho, ho', hbehind⟩ := Machine.endsAlike_of_finished
    (Machine.placed_start ⟨p, settings⟩ store console.enter) rfl ht hjump hdepth
  refine ⟨?_, ?_, fun k l hk hl => ?_⟩
  · obtain ⟨k, hk⟩ := ho.2
    refine ⟨k, ?_⟩
    rw [hsecond]
    exact Machine.halts_run_iff.mp (hk ▸ ho)
  · obtain ⟨l, hl⟩ := ho'.2
    refine ⟨l, ?_⟩
    rw [hwhole]
    exact Machine.halts_run_iff.mp (hl ▸ ho')
  · rw [hsecond] at hk ⊢
    rw [hwhole] at hl ⊢
    rw [(Machine.halts_run_iff.mpr hk).unique ho, (Machine.halts_run_iff.mpr hl).unique ho']
    exact hbehind.continues houtput

/-- The first program ends inside a block, which the second one leaves at its first line that is not
blank; a fault of the second is reported at its line of the whole. -/
theorem interpret_append_block :
    let p : Program := .ofLines "" [
      ['x', '=', '2'],
      ['i', 'f', ' ', 'x', '>', '1'],
      [' ', ' ', 'p', 'r', 'i', 'n', 't', ' ', 'x']]
    let q : Program := .ofLines "" [
      [' '],
      ['p', 'r', 'i', 'n', 't', ' ', 'x', '+', '1'],
      ['p', 'r', 'i', 'n', 't', ' ', 'x', '/', '0']]
    let settings : Settings := ⟨2, by decide, []⟩
    let first := interpret settings 9 "" (.program p) .empty {}
    let second k := interpret settings k "" (.program q) first.store
      { input := first.console.input }
    let whole k := interpret settings k "" (.program (p.append q)) .empty {}
    first.verdict = .ok ∧ first.console.output = "2\n" ∧
      (second 9).console.output =
        "3\nLine 3: print x/0\nScriptArithmeticError: Division by zero\n" ∧
      (whole 9).console.output =
        "2\n3\nLine 6: print x/0\nScriptArithmeticError: Division by zero\n" ∧
      RunResult.Continues p.size first (second 9) (whole 9) := by
  intro p q settings first second whole
  have hfirst : first.verdict = .ok := by decide +kernel
  refine ⟨hfirst, by decide +kernel, by decide +kernel, by decide +kernel, ?_⟩
  exact (interpret_append settings p q .empty {} 9 "" hfirst (by decide +kernel)
    (by decide +kernel)).2.2 9 9 (by decide +kernel) (by decide +kernel)

end LineScript
