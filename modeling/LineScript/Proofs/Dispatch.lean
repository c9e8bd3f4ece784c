import LineScript.Proofs.Cursor

/-!
# The statement at the cursor

A step either executes the statement at the cursor or passes over the line there. Which of the two
it is can be read off the program and the cursor: `Machine.statementAt?` is the statement that is
executed, if there is one.

* `Machine.Carried` lists what comes of a step that executes a statement, in terms of what the
  statement does to the world (`World.execute`) and of the turn it takes;
* `Machine.Passed` lists what comes of a step that executes none: it changes the cursor at most.

Together they cover every step (`Machine.carried`, `Machine.passed`), and what is said about single
steps in the files that follow rests on them.
-/

namespace LineScript

open Text

deriving instance DecidableEq for State, Outcome

namespace Machine

variable {m : Machine} {s : State} {statement : Statement}

/-- The statement that the step from a state executes: the one on the line at the cursor, if that
line is well indented and belongs to the current block. -/
def statementAt? (m : Machine) (s : State) : Option Statement := do
  let line ← m.program.line? s.line
  if allBlank line = false ∧ WellIndented m.unit line ∧ depthOf line = s.depth then
    (Statement.parse (line.drop s.depth)).toOption
  else none

theorem statementAt?_eq_some_iff :
    m.statementAt? s = some statement ↔
      ∃ line, m.program.line? s.line = some line ∧ allBlank line = false ∧
        WellIndented m.unit line ∧ depthOf line = s.depth ∧
        Statement.parse (line.drop s.depth) = .ok statement := by
  have hok (x : Except Fault Statement) : x.toOption = some statement ↔ x = .ok statement := by
    cases x <;> simp [Except.toOption]
  simp only [statementAt?, Option.bind_eq_bind, Option.bind_eq_some_iff,
    Option.ite_none_right_eq_some, hok, and_assoc]

/-! ### Executing a statement -/

/-- What can come of a step that executes a statement. -/
inductive Carried (m : Machine) (s : State) (statement : Statement) : Outcome → Prop where
  /-- The statement fails, and the cursor stays. -/
  | failed {s' : State} {cause : Failure} :
      s.world.execute m.settings statement = (s'.world, .error cause) →
      s'.line = s.line → s'.depth = s.depth → Carried m s statement (.failed s' cause)
  /-- The statement computes the number of a line to which no jump leads from here. -/
  | refused {s' : State} {target : Int} {f : Fault} :
      s.world.execute m.settings statement = (s'.world, .ok (.jump target)) →
      m.jumpIndex s.depth target = .error f →
      s'.line = s.line → s'.depth = s.depth → Carried m s statement (.failed s' (.script f))
  /-- The next line is looked at. -/
  | next {s' : State} :
      s.world.execute m.settings statement = (s'.world, .ok .next) →
      s'.line = s.line + 1 → s'.depth = s.depth → Carried m s statement (.running s')
  /-- The block below is entered. -/
  | enters {s' : State} :
      s.world.execute m.settings statement = (s'.world, .ok .enter) →
      s'.line = s.line + 1 → s'.depth = s.depth + m.unit → Carried m s statement (.running s')
  /-- The line with the computed number is looked at. -/
  | jumps {s' : State} {target : Int} :
      s.world.execute m.settings statement = (s'.world, .ok (.jump target)) →
      m.jumpIndex s.depth target = .ok s'.line → s'.depth = s.depth →
      Carried m s statement (.running s')

/-- What a step comes to when a statement has had an effect. -/
private def resume (e : Effect) : Outcome :=
  match e.result with
  | .error cause => .failed e.state cause
  | .ok target =>
    .running { e.state.note (.completed e.state.depth (target.map (· + 1))) with
      line := target.getD (e.state.line + 1) }

private theorem step_of_statementAt? (h : m.statementAt? s = some statement) :
    m.step s = resume (m.execStatement s statement) := by
  obtain ⟨line, hline, hblank, hindent, hdepth, hparse⟩ := statementAt?_eq_some_iff.mp h
  have hat {line' : Text} (h : m.program.line? s.line = some line') : line' = line :=
    Option.some.inj (h.symm.trans hline)
  -- The line is known not to be passed over, so the step can only be its execution.
  generalize ho : m.step s = o
  cases stepped_of_step ho with
  | finished hnone => simp [hline] at hnone
  | blank hline' hblank' => simp [hat hline', hblank] at hblank'
  | misplaced hline' _ hfault =>
    rw [hat hline', (indentFailure?_eq_none_iff hblank).mpr hindent] at hfault
    cases hfault
  | left hline' _ _ hless =>
    rw [hat hline'] at hless
    omega
  | skipped hline' _ _ hmore =>
    rw [hat hline'] at hmore
    omega
  | dispatched hline' _ _ _ ho =>
    rw [ho, hat hline', dispatch, hparse]
    rfl

/-- What becomes of a statement follows from what it does to the world. -/
private theorem carried_of_performs {e : Effect}
    (h : m.Performs s (s.world.execute m.settings statement) e) :
    m.Carried s statement (resume e) := by
  obtain ⟨state, result⟩ := e
  obtain ⟨hworld, hline, hdepth, hresult⟩ := h
  dsimp only at hworld hline hdepth hresult
  cases hexec : s.world.execute m.settings statement with
  | mk w r =>
    rw [hexec] at hworld hdepth hresult
    subst hworld hresult
    cases r with
    | error cause => exact .failed hexec hline hdepth
    | ok turn =>
      cases turn with
      | next => exact .next hexec (congrArg (· + 1) hline) hdepth
      | enter => exact .enters hexec (congrArg (· + 1) hline) hdepth
      | jump target =>
        show m.Carried s statement
          (resume ⟨state, ((m.jumpIndex s.depth target).mapError .script).map some⟩)
        cases hindex : m.jumpIndex s.depth target with
        | error f => exact .refused hexec hindex hline hdepth
        | ok index => exact .jumps hexec hindex hdepth

/-- A step at a statement is described by what the statement does to the world. -/
theorem carried (h : m.statementAt? s = some statement) : m.Carried s statement (m.step s) := by
  rw [step_of_statementAt? h]
  exact carried_of_performs (m.execStatement_performs s statement)

/-- A step at a statement notes its execution. -/
theorem dispatches_of_statementAt? (h : m.statementAt? s = some statement) :
    (m.step s).state.journal.dispatches =
      s.journal.dispatches ++ [(s.line + 1, s.depth, statement)] := by
  rw [step_of_statementAt? h, ← m.dispatches_execStatement s statement, resume]
  cases (m.execStatement s statement).result with
  | error cause => rfl
  | ok target => exact (Journal.dispatches_push _ _).trans (List.append_nil _)

/-! ### Passing over a line -/

/-- What can come of a step that executes no statement. -/
inductive Passed (m : Machine) (s : State) : Outcome → Prop where
  /-- There is no line left. -/
  | finished : m.program.line? s.line = none → Passed m s (.finished s)
  /-- A line that is blank or deeper than the current block is passed over. -/
  | skips {line : Text} :
      m.program.line? s.line = some line → allBlank line = true ∨ s.depth < depthOf line →
      Passed m s (.running s.advance)
  /-- The current block ends at a line that is less deep. -/
  | leaves {line : Text} :
      m.program.line? s.line = some line → allBlank line = false → depthOf line < s.depth →
      Passed m s (.running ({ s with depth := depthOf line }.note (.left s.depth (depthOf line))))
  /-- The line is badly indented or holds no statement. -/
  | faulty {line : Text} {cause : Failure} :
      m.program.line? s.line = some line → allBlank line = false →
      (indentFailure? m.unit line = some cause ∨ depthOf line = s.depth ∧
        ∃ f, Statement.parse (line.drop s.depth) = .error f ∧ cause = .script f) →
      Passed m s (.failed s cause)

/-- A step that executes no statement changes the cursor at most. -/
theorem passed (h : m.statementAt? s = none) : m.Passed s (m.step s) := by
  have hstepped := m.stepped s
  generalize m.step s = o at hstepped
  cases hstepped with
  | finished hnone => exact .finished hnone
  | blank hline hblank => exact .skips hline (.inl hblank)
  | misplaced hline hblank hfault => exact .faulty hline hblank (.inl hfault)
  | left hline hblank _ hless => exact .leaves hline hblank hless
  | skipped hline _ _ hmore => exact .skips hline (.inr hmore)
  | @dispatched line _ hline hblank hindent hdepth ho =>
    have hdispatched := m.dispatched s (line.drop s.depth)
    rw [← ho] at hdispatched
    cases hdispatched with
    | unrecognized hparse => exact .faulty hline hblank (.inr ⟨hdepth, _, hparse, rfl⟩)
    | failed hparse _ =>
      rw [statementAt?_eq_some_iff.mpr ⟨line, hline, hblank, hindent, hdepth, hparse⟩] at h
      cases h
    | completed hparse _ =>
      rw [statementAt?_eq_some_iff.mpr ⟨line, hline, hblank, hindent, hdepth, hparse⟩] at h
      cases h

/-- A step that executes no statement notes no execution. -/
theorem Passed.dispatches {o : Outcome} (h : m.Passed s o) :
    o.state.journal.dispatches = s.journal.dispatches := by
  cases h with
  | leaves _ _ _ => exact (s.journal.dispatches_push _).trans (List.append_nil _)
  | _ => rfl

/-- A step that executes no statement leaves the world alone. -/
theorem Passed.world {o : Outcome} (h : m.Passed s o) : o.state.world = s.world := by
  cases h <;> rfl

end Machine

end LineScript
