import LineScript.Proofs.Effect

/-!
# Programs as nested blocks

A machine knows of blocks only through one number, the depth of the current block. It goes up by a
unit where a condition holds, and comes down late, when a line arrives that is less deep. This file
compares it, for programs without jumps, with the reading of a program as nested blocks
(`runBlock`): the lines of a block's own depth are executed in order, the deeper lines below one of
them are its body, and the body is a block that is run if the line is a condition that holds.

The comparison goes through `runLines`, which takes the lines one after the other as the machine
does, with its depth as a cursor, but without line numbers and steps:

* `runBlock_eq_runLines`: the nesting is recovered from the cursor. A body that is not entered lies
  deeper than the cursor and is passed over as a whole; behind a body that is entered the cursor is
  too deep, which makes no difference to a line that is not (`runLines_of_le`);
* `halts_runLines`: the machine goes through the lines as `runLines` does.
-/

namespace LineScript

open Text

/-! ### Lines and blocks -/

/-- A line that is not blank: its index, the spaces it starts with, and the rest of it. -/
structure CodeLine where
  index : Nat
  depth : Nat
  text : Text
  deriving DecidableEq

/-- The lines that are not blank, numbered from an index on. -/
def codeLines : Nat → List Text → List CodeLine
  | _, [] => []
  | i, line :: rest =>
    if allBlank line then codeLines (i + 1) rest
    else ⟨i, depthOf line, line.drop (depthOf line)⟩ :: codeLines (i + 1) rest

/-- An execution that has stopped at a line, with the world as it is then. -/
structure Stop where
  world : World
  line : Nat
  cause : Failure
  deriving DecidableEq

/-- Executes the statement on a line. -/
def CodeLine.execute (settings : Settings) (l : CodeLine) (w : World) :
    Except Stop (Turn × World) :=
  match Statement.parse l.text with
  | .error f => .error ⟨w, l.index, .script f⟩
  | .ok statement =>
    match w.execute settings statement with
    | (w', .error cause) => .error ⟨w', l.index, cause⟩
    | (w', .ok turn) => .ok (turn, w')

/-- The lines deeper than a line of some depth that stand right below it: its body. -/
def bodyBelow (depth : Nat) (lines : List CodeLine) : List CodeLine :=
  lines.takeWhile fun l => depth < l.depth

/-- The lines behind the body of a line of some depth. -/
def afterBody (depth : Nat) (lines : List CodeLine) : List CodeLine :=
  lines.dropWhile fun l => depth < l.depth

/-- Runs the block of a given depth that is made of some lines. A line of that depth is executed,
and its body is run as a block one unit deeper if the line is a condition that holds. -/
def runBlock (settings : Settings) (depth : Nat) (lines : List CodeLine) (w : World) :
    Except Stop World :=
  match lines with
  | [] => .ok w
  | l :: rest =>
    if l.depth = depth then do
      let (turn, w) ← l.execute settings w
      let w ← if turn = .enter then
          runBlock settings (depth + settings.unit) (bodyBelow depth rest) w
        else .ok w
      runBlock settings depth (afterBody depth rest) w
    else runBlock settings depth rest w
termination_by lines.length
decreasing_by
  all_goals
    have hbody : (bodyBelow depth rest).length ≤ rest.length :=
      (List.takeWhile_sublist _).length_le
    have hafter : (afterBody depth rest).length ≤ rest.length :=
      (List.dropWhile_sublist _).length_le
    simp only [List.length_cons]
    omega

/-- Takes lines one after the other with the depth of the current block as a cursor, and gives the
cursor and the world at the end. -/
def runLines (settings : Settings) : Nat → List CodeLine → World → Except Stop (Nat × World)
  | depth, [], w => .ok (depth, w)
  | depth, l :: rest, w =>
    if depth < l.depth then runLines settings depth rest w
    else do
      let (turn, w) ← l.execute settings w
      runLines settings (if turn = .enter then l.depth + settings.unit else l.depth) rest w

section Lines

variable (settings : Settings)

/-! ### Nesting recovered from the cursor -/

theorem runLines_append (depth : Nat) (xs ys : List CodeLine) (w : World) :
    runLines settings depth (xs ++ ys) w =
      (runLines settings depth xs w).bind fun r => runLines settings r.1 ys r.2 := by
  induction xs generalizing depth w with
  | nil => rfl
  | cons l xs ih =>
    rw [List.cons_append, runLines, runLines]
    split
    · exact ih depth w
    · cases l.execute settings w with
      | error stop => rfl
      | ok r => exact ih _ r.2

/-- Lines deeper than the cursor are passed over. -/
theorem runLines_of_forall_lt {depth : Nat} {xs : List CodeLine} (h : ∀ l ∈ xs, depth < l.depth)
    (w : World) : runLines settings depth xs w = .ok (depth, w) := by
  induction xs with
  | nil => rfl
  | cons l xs ih =>
    rw [runLines, if_pos (h l List.mem_cons_self)]
    exact ih fun l' hl' => h l' (List.mem_cons_of_mem l hl')

/-- A cursor that is too deep makes no difference to lines that start with one that is not. -/
theorem runLines_of_le {depth depth' : Nat} {xs : List CodeLine}
    (h : ∀ l ∈ xs.head?, l.depth ≤ depth) (hle : depth ≤ depth') (w : World) :
    (runLines settings depth' xs w).map Prod.snd = (runLines settings depth xs w).map Prod.snd := by
  cases xs with
  | nil => rfl
  | cons l xs =>
    have hl : l.depth ≤ depth := h l rfl
    rw [runLines, runLines, if_neg (by omega), if_neg (by omega)]

/-- The cursor never comes down below the depth of all lines it has passed. -/
theorem le_of_runLines {least depth depth' : Nat} {xs : List CodeLine} {w w' : World}
    (hxs : ∀ l ∈ xs, least ≤ l.depth) (hdepth : least ≤ depth)
    (h : runLines settings depth xs w = .ok (depth', w')) : least ≤ depth' := by
  induction xs generalizing depth w with
  | nil =>
    obtain ⟨rfl, rfl⟩ := Prod.mk.inj (Except.ok.inj h)
    exact hdepth
  | cons l xs ih =>
    have hl : least ≤ l.depth := hxs l List.mem_cons_self
    have hrest : ∀ l' ∈ xs, least ≤ l'.depth := fun l' hl' => hxs l' (List.mem_cons_of_mem l hl')
    rw [runLines] at h
    split at h
    · exact ih hrest hdepth h
    · cases hexec : l.execute settings w with
      | error stop =>
        rw [hexec] at h
        cases h
      | ok r =>
        rw [hexec] at h
        refine ih hrest ?_ h
        split <;> omega

theorem bodyBelow_append_afterBody (depth : Nat) (lines : List CodeLine) :
    bodyBelow depth lines ++ afterBody depth lines = lines :=
  List.takeWhile_append_dropWhile

theorem lt_depth_of_mem_bodyBelow {depth : Nat} {lines : List CodeLine} {l : CodeLine}
    (h : l ∈ bodyBelow depth lines) : depth < l.depth := by
  have hp := List.mem_takeWhile_imp (p := fun l : CodeLine => decide (depth < l.depth)) h
  exact of_decide_eq_true hp

theorem depth_le_of_head?_afterBody {depth : Nat} {lines : List CodeLine} {l : CodeLine}
    (h : l ∈ (afterBody depth lines).head?) : l.depth ≤ depth := by
  have hnot := List.head?_dropWhile_not (fun l : CodeLine => decide (depth < l.depth)) lines
  rw [show (lines.dropWhile _).head? = some l from h] at hnot
  exact Nat.le_of_not_lt (of_decide_eq_false hnot)

/-- A body that is entered, and then what follows it: the cursor that is left behind makes no
difference, since what follows is not deeper than the line above the body. -/
theorem runLines_enter (depth : Nat) (lines : List CodeLine) (w : World) :
    (((runLines settings (depth + settings.unit) (bodyBelow depth lines) w).map Prod.snd).bind
        fun w => (runLines settings depth (afterBody depth lines) w).map Prod.snd) =
      (runLines settings (depth + settings.unit) lines w).map Prod.snd := by
  have happend := runLines_append settings (depth + settings.unit) (bodyBelow depth lines)
    (afterBody depth lines) w
  rw [bodyBelow_append_afterBody] at happend
  rw [happend]
  cases hrun : runLines settings (depth + settings.unit) (bodyBelow depth lines) w with
  | error stop => rfl
  | ok r =>
    -- The body leaves a cursor that is at least as deep as the line above it.
    have hr : depth ≤ r.1 :=
      le_of_runLines settings (fun l hl => Nat.le_of_lt (lt_depth_of_mem_bodyBelow hl))
        (Nat.le_add_right depth settings.unit) hrun
    exact (runLines_of_le settings (fun l hl => depth_le_of_head?_afterBody hl) hr r.2).symm

/-- A body that is not entered is passed over. -/
theorem runLines_skip (depth : Nat) (lines : List CodeLine) (w : World) :
    runLines settings depth lines w = runLines settings depth (afterBody depth lines) w := by
  have happend := runLines_append settings depth (bodyBelow depth lines) (afterBody depth lines) w
  rw [bodyBelow_append_afterBody,
    runLines_of_forall_lt settings fun l hl => lt_depth_of_mem_bodyBelow hl] at happend
  exact happend

private theorem add_unit_le {unit a b : Nat} (ha : unit ∣ a) (hb : unit ∣ b) (hlt : a < b) :
    a + unit ≤ b := by
  have hle : unit ≤ b - a := Nat.le_of_dvd (by omega) (Nat.dvd_sub hb ha)
  omega

/-- **Blocks are recovered from the cursor**: running lines as nested blocks is going through them
with the depth of the current block as a cursor. -/
theorem runBlock_eq_runLines {depth : Nat} {lines : List CodeLine}
    (hdepth : settings.unit ∣ depth)
    (hlines : ∀ l ∈ lines, depth ≤ l.depth ∧ settings.unit ∣ l.depth) (w : World) :
    runBlock settings depth lines w = (runLines settings depth lines w).map Prod.snd := by
  -- the recursion of `runBlock`: a line of the block with its body and what follows, or a line that
  -- is deeper than the block and belongs to no body
  fun_induction runBlock settings depth lines w with
  | case1 => rfl
  | case2 w l rest ihafter ihbody =>
    have hbody : ∀ l' ∈ bodyBelow l.depth rest,
        l.depth + settings.unit ≤ l'.depth ∧ settings.unit ∣ l'.depth := by
      intro l' hl'
      have hdvd := (hlines l' (List.mem_cons_of_mem l ((List.takeWhile_sublist _).mem hl'))).2
      exact ⟨add_unit_le hdepth hdvd (lt_depth_of_mem_bodyBelow hl'), hdvd⟩
    have hafter : ∀ l' ∈ afterBody l.depth rest,
        l.depth ≤ l'.depth ∧ settings.unit ∣ l'.depth := fun l' hl' =>
      hlines l' (List.mem_cons_of_mem l ((List.dropWhile_sublist _).mem hl'))
    rw [runLines, if_neg (Nat.lt_irrefl _)]
    cases l.execute settings w with
    | error stop => rfl
    | ok r =>
      obtain ⟨turn, w'⟩ := r
      show (if turn = .enter then _ else _) =
        (runLines settings (if turn = .enter then _ else _) rest w').map Prod.snd
      by_cases henter : turn = .enter
      · rw [if_pos henter, if_pos henter, ← runLines_enter,
          ihbody w' (Nat.dvd_add hdepth (Nat.dvd_refl _)) hbody]
        exact congrArg _ (funext fun w => ihafter w hdepth hafter)
      · rw [if_neg henter, if_neg henter, runLines_skip]
        exact ihafter w' hdepth hafter
  | case3 depth w l rest hl ih =>
    have hlt : depth < l.depth := by
      have := (hlines l List.mem_cons_self).1
      omega
    rw [runLines, if_pos hlt]
    exact ih hdepth fun l' hl' => hlines l' (List.mem_cons_of_mem l hl')

end Lines

/-! ### The machine goes through the lines -/

/-- An outcome is that of lines that were run with some result: the same world, and the same cause
at the same line if they stopped. -/
def Outcome.Matches (o : Outcome) : Except Stop World → Prop
  | .ok w => ∃ s, o = .finished s ∧ s.world = w
  | .error stop => ∃ s, o = .failed s stop.cause ∧ s.world = stop.world ∧ s.line = stop.line

namespace Machine

variable {m : Machine} {s : State}

theorem step_of_depth_eq {line : Text} (hline : m.program.line? s.line = some line)
    (hblank : allBlank line = false) (hindent : WellIndented m.unit line)
    (hdepth : depthOf line = s.depth) : m.step s = m.dispatch s (line.drop s.depth) := by
  rw [step, hline]
  have hdvd : s.depth % m.unit = 0 := Nat.mod_eq_zero_of_dvd (hdepth ▸ hindent.dvd_depth)
  obtain ⟨c, hhead, hc⟩ := hindent.head_not_isBlank
  rw [hdepth] at hhead
  simp [hblank, visit, hdepth, Option.mem_def.mp hhead, hc, hdvd]

/-- A statement that is no jump does the same on a line as at the cursor of a machine. -/
theorem dispatch_execute {l : CodeLine} (hindex : l.index = s.line)
    (hjump : ∀ statement, Statement.parse l.text = .ok statement → statement.kind ≠ .jump) :
    match l.execute m.settings s.world with
    | .error stop => (m.dispatch s l.text).Matches (.error stop)
    | .ok (turn, w) => ∃ s', m.dispatch s l.text = .running s' ∧ s'.world = w ∧
        s'.line = s.line + 1 ∧ s'.depth = if turn = .enter then s.depth + m.unit else s.depth := by
  rw [CodeLine.execute, dispatch]
  cases hparse : Statement.parse l.text with
  | error f => exact ⟨s, rfl, rfl, hindex.symm⟩
  | ok statement =>
    obtain ⟨hworld, hline, hdepth, hresult⟩ := m.execStatement_performs s statement
    dsimp only
    cases hexec : s.world.execute m.settings statement with
    | mk w r =>
      rw [hexec] at hworld hdepth hresult
      cases r with
      | error cause =>
        have hresult : (m.execStatement s statement).result = .error cause := hresult
        dsimp only
        rw [hresult]
        exact ⟨_, rfl, hworld, hline.trans hindex.symm⟩
      | ok turn =>
        have hturn : (s.world.execute m.settings statement).2 = .ok turn := by rw [hexec]
        -- Without a jump there is no target, so the cursor goes on to the next line.
        have hresult : (m.execStatement s statement).result = .ok none := by
          rw [hresult]
          rw [World.execute_eq_perform hturn] at hturn
          obtain ⟨rfl, -⟩ | ⟨rfl, -⟩ | ⟨expression, -, -, haction, -⟩ := World.perform_turn hturn
          · rfl
          · rfl
          · exact absurd (congrArg Action.kind haction) (hjump statement hparse)
        dsimp only
        rw [hresult]
        refine ⟨_, rfl, hworld, ?_, ?_⟩
        · show (m.execStatement s statement).state.line + 1 = s.line + 1
          rw [hline]
        · show (m.execStatement s statement).state.depth = _
          rw [hdepth]
          simp only [Except.ok.injEq]

/-- The lines of a program from a state's line on. -/
def linesFrom (m : Machine) (s : State) : List Text := m.program.lines.toList.drop s.line

/-- The line at the cursor is the first of the lines from there on. -/
theorem head?_linesFrom (m : Machine) (s : State) :
    (m.linesFrom s).head? = m.program.line? s.line := by
  rw [linesFrom, List.head?_drop, Array.getElem?_toList]
  rfl

theorem linesFrom_of_line_eq {line : Text} {rest : List Text} (h : m.linesFrom s = line :: rest)
    {s' : State} (hs' : s'.line = s.line + 1) : m.linesFrom s' = rest := by
  rw [linesFrom, hs', ← List.tail_drop]
  exact congrArg List.tail h

/-- The machine executes the line at its cursor and goes on with the lines below. -/
theorem halts_execute {line : Text} {rest : List Text} (hrest : m.linesFrom s = line :: rest)
    (hblank : allBlank line = false) (hindent : WellIndented m.unit line)
    (hjump : kindOf? line ≠ some .jump)
    (hdepth : depthOf line = s.depth)
    (ih : ∀ s' : State, m.linesFrom s' = rest → ∃ o, m.Halts s' o ∧
      o.Matches ((runLines m.settings s'.depth (codeLines s'.line rest) s'.world).map Prod.snd)) :
    ∃ o, m.Halts s o ∧
      o.Matches ((runLines m.settings s.depth (codeLines s.line (line :: rest)) s.world).map
        Prod.snd) := by
  have hline : m.program.line? s.line = some line := by
    rw [← head?_linesFrom, hrest, List.head?_cons]
  have hstep := step_of_depth_eq hline hblank hindent hdepth
  have hexec := dispatch_execute (m := m) (s := s)
    (l := ⟨s.line, depthOf line, line.drop (depthOf line)⟩) rfl fun statement hparse hkind =>
      hjump (hkind ▸ kindOf?_of_parse hparse)
  rw [codeLines, hblank, if_neg Bool.false_ne_true, runLines, if_neg (by simp [hdepth])]
  rw [← hdepth] at hstep
  cases hl : CodeLine.execute m.settings ⟨s.line, depthOf line, line.drop (depthOf line)⟩
      s.world with
  | error stop =>
    rw [hl] at hexec
    refine ⟨_, .of_step hstep ?_, hexec⟩
    obtain ⟨t, ht, -⟩ := hexec
    intro t' ht'
    cases ht.symm.trans ht'
  | ok r =>
    obtain ⟨turn, w⟩ := r
    rw [hl] at hexec
    obtain ⟨s', hs', rfl, hline', hdepth'⟩ := hexec
    obtain ⟨o, hhalts, hmatch⟩ := ih s' (linesFrom_of_line_eq hrest hline')
    refine ⟨o, .of_running (hstep.trans hs') hhalts, ?_⟩
    rw [hline', hdepth', ← hdepth] at hmatch
    exact hmatch

/-- **The machine goes through the lines**: from a state on, it comes to the same as taking the
lines of the program from there on one after the other. -/
theorem halts_runLines
    (hindent : ∀ line ∈ m.program.lines.toList, allBlank line = false → WellIndented m.unit line)
    (hjump : ∀ line ∈ m.program.lines.toList, kindOf? line ≠ some .jump)
    {rest : List Text} (hrest : m.linesFrom s = rest) :
    ∃ o, m.Halts s o ∧
      o.Matches ((runLines m.settings s.depth (codeLines s.line rest) s.world).map Prod.snd) := by
  induction rest generalizing s with
  | nil =>
    have hnone : m.program.line? s.line = none := by
      rw [← head?_linesFrom, hrest, List.head?_nil]
    have hstep : m.step s = .finished s := by rw [step, hnone]
    exact ⟨_, .of_step hstep fun _ => Outcome.noConfusion, s, rfl, rfl⟩
  | cons line rest ih =>
    have hmem : line ∈ m.program.lines.toList :=
      (List.drop_sublist s.line _).mem (by rw [← linesFrom, hrest]; exact List.mem_cons_self)
    have hline : m.program.line? s.line = some line := by
      rw [← head?_linesFrom, hrest, List.head?_cons]
    have hnext : m.linesFrom s.advance = rest := linesFrom_of_line_eq hrest rfl
    have hstepped := m.stepped s
    generalize hstep : m.step s = o at hstepped
    cases hstepped with
    | finished hnone => rw [hline] at hnone; cases hnone
    | @blank line' hline' hblank =>
      obtain rfl := Option.some.inj (hline.symm.trans hline')
      obtain ⟨o, hhalts, hmatch⟩ := ih hnext
      refine ⟨o, .of_running hstep hhalts, ?_⟩
      rwa [codeLines, hblank, if_pos rfl]
    | @misplaced line' cause hline' hblank hfault =>
      obtain rfl := Option.some.inj (hline.symm.trans hline')
      rw [(indentFailure?_eq_none_iff hblank).mpr (hindent line hmem hblank)] at hfault
      cases hfault
    | @left line' hline' hblank hwell hless =>
      -- the block ends, and the line is looked at again at its own depth
      obtain rfl := Option.some.inj (hline.symm.trans hline')
      obtain ⟨o, hhalts, hmatch⟩ := halts_execute
        (s := { s with depth := depthOf line }.note (.left s.depth (depthOf line)))
        hrest hblank hwell (hjump line hmem) rfl fun s' hs' => ih hs'
      refine ⟨o, .of_running hstep hhalts, ?_⟩
      have hle : (depthOf line : Nat) ≤ s.depth := Nat.le_of_lt hless
      rwa [runLines_of_le m.settings _ hle]
      intro l hl
      rw [codeLines, hblank, if_neg Bool.false_ne_true] at hl
      obtain rfl := Option.some.inj hl
      exact Nat.le_refl _
    | @skipped line' hline' hblank hwell hmore =>
      obtain rfl := Option.some.inj (hline.symm.trans hline')
      obtain ⟨o, hhalts, hmatch⟩ := ih hnext
      refine ⟨o, .of_running hstep hhalts, ?_⟩
      rw [codeLines, hblank, if_neg Bool.false_ne_true, runLines, if_pos hmore]
      exact hmatch
    | @dispatched line' o hline' hblank hwell hdepth ho =>
      obtain rfl := Option.some.inj (hline.symm.trans hline')
      exact halts_execute hrest hblank hwell (hjump line hmem) hdepth fun s' hs' => ih hs'

end Machine

/-- Every line that is not blank comes from a line of the program. -/
theorem exists_line_of_mem_codeLines {i : Nat} {lines : List Text} {l : CodeLine}
    (h : l ∈ codeLines i lines) :
    ∃ line ∈ lines, allBlank line = false ∧ l.depth = depthOf line := by
  induction lines generalizing i with
  | nil => cases h
  | cons line rest ih =>
    rw [codeLines] at h
    cases hblank : allBlank line with
    | true =>
      rw [hblank, if_pos rfl] at h
      obtain ⟨line', hmem, hline'⟩ := ih h
      exact ⟨line', List.mem_cons_of_mem line hmem, hline'⟩
    | false =>
      rw [hblank, if_neg Bool.false_ne_true] at h
      rcases List.mem_cons.mp h with rfl | h
      · exact ⟨line, List.mem_cons_self, hblank, rfl⟩
      · obtain ⟨line', hmem, hline'⟩ := ih h
        exact ⟨line', List.mem_cons_of_mem line hmem, hline'⟩

/-- **Programs without jumps are nested blocks**: a machine that starts at the first line of a
program, outside of all blocks, stops, and it leaves the same world as running the lines of the
program as one block of depth zero, or fails for the same cause at the same line. -/
theorem halts_runBlock (m : Machine)
    (hindent : ∀ line ∈ m.program.lines.toList, allBlank line = false → WellIndented m.unit line)
    (hjump : ∀ line ∈ m.program.lines.toList, kindOf? line ≠ some .jump)
    (store : Store) (console : Console) :
    ∃ o, m.Halts { store, console } o ∧
      o.Matches (runBlock m.settings 0 (codeLines 0 m.program.lines.toList) ⟨store, console⟩) := by
  have hlines : ∀ l ∈ codeLines 0 m.program.lines.toList,
      0 ≤ l.depth ∧ m.settings.unit ∣ l.depth := by
    intro l hl
    obtain ⟨line, hmem, hblank, hdepth⟩ := exists_line_of_mem_codeLines hl
    exact ⟨Nat.zero_le _, hdepth ▸ (hindent line hmem hblank).dvd_depth⟩
  rw [runBlock_eq_runLines m.settings (Nat.dvd_zero _) hlines]
  exact Machine.halts_runLines (s := { store, console }) hindent hjump rfl

/-- Two conditions, one of which holds, a body that is too deep, and a block left over at the end:
`2` and `7` are written. -/
theorem halts_runBlock_conditions :
    let m : Machine :=
      ⟨.ofLines "" [
        ['x', '=', '2'],
        ['i', 'f', ' ', 'x', '>', '1'],
        [' ', ' ', 'p', 'r', 'i', 'n', 't', ' ', '0'],
        [],
        [' ', 'p', 'r', 'i', 'n', 't', ' ', 'x'],
        [' ', 'i', 'f', ' ', 'x', '>', '5'],
        [' ', ' ', 'p', 'r', 'i', 'n', 't', ' ', '1'],
        ['p', 'r', 'i', 'n', 't', ' ', '7'],
        ['i', 'f', ' ', 'x', '=', '=', '2']],
        1, by decide, []⟩
    ∃ s, m.Halts {} (.finished s) ∧ s.console.written = #["2", "7"] := by
  intro m
  obtain ⟨o, hhalts, hmatch⟩ := halts_runBlock m (by decide +kernel) (by decide +kernel) .empty {}
  have hrun : runBlock m.settings 0 (codeLines 0 m.program.lines.toList) ⟨.empty, {}⟩ =
      .ok ⟨Store.empty.set 23 2, { written := #["2", "7"] }⟩ := by
    rw [runBlock_eq_runLines m.settings (by decide) (by decide +kernel)]
    decide +kernel
  rw [hrun] at hmatch
  obtain ⟨s, rfl, hs⟩ := hmatch
  exact ⟨s, hhalts, congrArg (fun w => w.console.written) hs⟩

end LineScript
