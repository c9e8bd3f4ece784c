import LineScript.Proofs.Effect

/-!
# The cursor

The cursor of a machine is the line it looks at next and the depth of the current block. Whatever
the program computes, the cursor stays within the program: the line is one of the program or the
place behind the last, and the depth is that of a line or one unit more, below a condition.

What a step can do to the cursor is said by `Machine.Moves`, and what a step executes by
`Machine.Hands`; both hold of every step from every state. `Machine.Placed` is the invariant, kept
by every step (`Machine.Placed.step`) and so by every run.
-/

namespace LineScript

open Text

/-! ### Executed statements in the journal -/

/-- The line number, the depth and the statement, for the event of one being executed. -/
def Event.dispatch? : Event → Option (Nat × Nat × Statement)
  | .dispatched line depth statement => some (line, depth, statement)
  | _ => none

/-- The statements that were executed, each with its line number and depth. -/
def Journal.dispatches (j : Journal) : List (Nat × Nat × Statement) :=
  j.toList.filterMap Event.dispatch?

theorem Journal.dispatches_push (j : Journal) (e : Event) :
    Journal.dispatches (j.push e) = j.dispatches ++ e.dispatch?.toList := by
  rw [dispatches, Array.toList_push, List.filterMap_append]
  rfl

theorem Journal.dispatches_rejected (lengths : List Nat) (j : Journal) :
    Journal.dispatches (lengths.foldl (fun j n => j.push (.rejected n)) j) = j.dispatches := by
  induction lengths generalizing j with
  | nil => rfl
  | cons n lengths ih =>
    rw [List.foldl_cons, ih, dispatches_push]
    exact List.append_nil _

namespace Machine

variable {m : Machine} {s s' : State} {o : Outcome}

/-- An action does not note the execution of a statement. -/
theorem dispatches_execAction (m : Machine) (s : State) (action : Action) :
    (m.execAction s action).state.journal.dispatches = s.journal.dispatches := by
  cases action with
  | input target =>
    rw [execAction, execInput]
    split
    · rfl
    · dsimp only
      split
      · exact Journal.dispatches_rejected _ _
      · exact Journal.dispatches_rejected _ _
  | assignment target expression =>
    rw [execAction, execAssignment]
    split
    · rfl
    · split <;> rfl
  | output expression =>
    rw [execAction, execOutput]
    split
    · rfl
    · split <;> rfl
  | branch condition =>
    rw [execAction, execBranch]
    split
    · rfl
    · exact (s.journal.dispatches_push _).trans (List.append_nil _)
    · rfl
  | jump expression =>
    rw [execAction, execJump]
    split
    · rfl
    · exact (s.journal.dispatches_push _).trans (List.append_nil _)

/-- The execution of a statement is noted once, with the line and depth of the cursor. -/
theorem dispatches_execStatement (m : Machine) (s : State) (statement : Statement) :
    (m.execStatement s statement).state.journal.dispatches =
      s.journal.dispatches ++ [(s.line + 1, s.depth, statement)] := by
  have hnote : (s.note (.dispatched (s.line + 1) s.depth statement)).journal.dispatches =
      s.journal.dispatches ++ [(s.line + 1, s.depth, statement)] :=
    s.journal.dispatches_push _
  rw [execStatement]
  split
  · exact hnote
  · rw [dispatches_execAction, hnote]

/-- A text is handed over to be read as a statement: it is the line at the cursor, which is not
blank and as deep as the current block, without its indentation. -/
structure Hands (m : Machine) (s : State) (text : Text) : Prop where
  exists_line : ∃ line, m.program.line? s.line = some line ∧ allBlank line = false ∧
    depthOf line = s.depth ∧ text = line.drop s.depth
  head_not_isBlank : ∃ c ∈ text.head?, isBlank c = false

theorem Hands.of_wellIndented {line : Text} (hline : m.program.line? s.line = some line)
    (hblank : allBlank line = false) (hindent : WellIndented m.unit line)
    (hdepth : depthOf line = s.depth) : m.Hands s (line.drop s.depth) := by
  refine ⟨⟨line, hline, hblank, hdepth, rfl⟩, ?_⟩
  rw [← hdepth]
  exact hindent.head_not_isBlank

/-- The ways in which a step deals with statements. -/
inductive Executes (m : Machine) (s : State) (o : Outcome) : Prop where
  /-- None is executed, and none is looked for in the line. -/
  | passes : o.state.journal.dispatches = s.journal.dispatches →
      (∀ s' cause, o = .failed s' cause → ∃ line, m.program.line? s.line = some line ∧
        indentFailure? m.unit line = some cause) → Executes m s o
  /-- None is executed, as the text handed over does not hold one. -/
  | refuses {text : Text} {f : Fault} : m.Hands s text → Statement.parse text = .error f →
      o = .failed s (.script f) → Executes m s o
  /-- The one in the text handed over is executed. -/
  | executes {text : Text} {statement : Statement} : m.Hands s text →
      Statement.parse text = .ok statement →
      o.state.journal.dispatches =
        s.journal.dispatches ++ [(s.line + 1, s.depth, statement)] → Executes m s o

theorem Dispatched.executes {text : Text} (hhands : m.Hands s text) (h : m.Dispatched s text o) :
    m.Executes s o := by
  cases h with
  | unrecognized hparse => exact .refuses hhands hparse rfl
  | failed hparse _ => exact .executes hhands hparse (m.dispatches_execStatement s _)
  | completed hparse _ =>
    refine .executes hhands hparse ?_
    rw [← m.dispatches_execStatement s]
    exact (Journal.dispatches_push _ _).trans (List.append_nil _)

/-- What a step executes is the statement at the cursor. -/
theorem Stepped.executes (h : m.Stepped s o) : m.Executes s o := by
  -- Only the end of a block is noted apart from statements, and it is no dispatch.
  cases h with
  | finished _ => exact .passes rfl nofun
  | blank _ _ => exact .passes rfl nofun
  | misplaced hline _ hfault =>
    refine .passes rfl ?_
    rintro _ _ ⟨⟩
    exact ⟨_, hline, hfault⟩
  | left _ _ _ _ =>
    refine .passes ?_ nofun
    exact (s.journal.dispatches_push _).trans (List.append_nil _)
  | skipped _ _ _ _ => exact .passes rfl nofun
  | @dispatched line _ hline hblank hindent hdepth ho =>
    rw [ho]
    exact (m.dispatched s _).executes (.of_wellIndented hline hblank hindent hdepth)

/-! ### What a step does to the cursor -/

theorem lt_size_of_jumpIndex {depth index : Nat} {target : Int}
    (h : m.jumpIndex depth target = .ok index) : index < m.program.size := by
  rw [jumpIndex] at h
  split at h
  · cases h
  · rename_i line hline
    split at hline
    · cases hline
    · split at h <;> cases h
      exact (Array.getElem?_eq_some_iff.mp hline).1

/-- A turn that leads to a line leads to one of the program. -/
theorem lt_size_of_follow {depth target : Nat} {turn : Turn}
    (h : m.follow depth turn = .ok (some target)) : target < m.program.size := by
  cases turn with
  | next => cases h
  | enter => cases h
  | jump number =>
    rw [follow] at h
    cases hindex : m.jumpIndex depth number with
    | error f =>
      rw [hindex] at h
      cases h
    | ok index =>
      rw [hindex] at h
      cases h
      exact lt_size_of_jumpIndex hindex

theorem lt_size_of_execStatement {statement : Statement} {target : Nat}
    (h : (m.execStatement s statement).result = .ok (some target)) : target < m.program.size := by
  rw [(m.execStatement_performs s statement).result] at h
  cases hturn : (s.world.execute m.settings statement).2 with
  | error cause =>
    rw [hturn] at h
    cases h
  | ok turn =>
    rw [hturn] at h
    exact lt_size_of_follow h

/-- Only a condition that holds changes the depth. -/
theorem depth_execStatement (m : Machine) (s : State) (statement : Statement) :
    (m.execStatement s statement).state.depth = s.depth ∨
      ((m.execStatement s statement).state.depth = s.depth + m.unit ∧
        ∃ condition, statement.action = .branch condition ∧
          evalCondition s.store condition = .ok true) := by
  rw [(m.execStatement_performs s statement).depth]
  split
  · rename_i hturn
    rw [World.execute_eq_perform hturn] at hturn
    obtain ⟨hnext, -⟩ | ⟨-, hholds⟩ | ⟨_, _, hjump, -⟩ := World.perform_turn hturn
    · cases hnext
    · exact .inr ⟨rfl, hholds⟩
    · cases hjump
  · exact .inl rfl

/-- The depths to which a step can take the current block. -/
inductive Moves (m : Machine) (s : State) : Nat → Prop where
  | stays : Moves m s s.depth
  /-- It shrinks to the depth of the line at the cursor. -/
  | leaves {line : Text} : m.program.line? s.line = some line → allBlank line = false →
      WellIndented m.unit line → depthOf line < s.depth → Moves m s (depthOf line)
  /-- It grows by one unit, at a condition that holds. -/
  | enters {line : Text} {statement : Statement} {condition : Text} :
      m.program.line? s.line = some line → allBlank line = false → depthOf line = s.depth →
      Statement.parse (line.drop s.depth) = .ok statement →
      statement.action = .branch condition → evalCondition s.store condition = .ok true →
      Moves m s (s.depth + m.unit)

/-- Executing the line at the cursor keeps the depth or enters the block below. -/
theorem Dispatched.moves {line : Text} (hline : m.program.line? s.line = some line)
    (hblank : allBlank line = false) (hdepth : depthOf line = s.depth)
    (h : m.Dispatched s (line.drop s.depth) o) : m.Moves s o.state.depth := by
  have hmoves {statement : Statement}
      (hparse : Statement.parse (line.drop s.depth) = .ok statement) :
      m.Moves s (m.execStatement s statement).state.depth := by
    obtain hsame | ⟨henter, condition, haction, hholds⟩ := m.depth_execStatement s statement
    · rw [hsame]
      exact .stays
    · rw [henter]
      exact .enters hline hblank hdepth hparse haction hholds
  cases h with
  | unrecognized _ => exact .stays
  | failed hparse _ => exact hmoves hparse
  | completed hparse _ => exact hmoves hparse

theorem Stepped.moves (h : m.Stepped s o) : m.Moves s o.state.depth := by
  cases h with
  | left hline hblank hindent hless => exact .leaves hline hblank hindent hless
  | @dispatched line _ hline hblank _ hdepth ho =>
    rw [ho]
    exact (m.dispatched s _).moves hline hblank hdepth
  | _ => exact .stays

/-- A step does not lead out of the program. -/
theorem Stepped.line_le (h : m.Stepped s o) (hs : s.line ≤ m.program.size) :
    o.state.line ≤ m.program.size := by
  -- Wherever the cursor advances, there is a line at it.
  have hnext {line : Text} (hline : m.program.line? s.line = some line) :
      s.line + 1 ≤ m.program.size :=
    (Array.getElem?_eq_some_iff.mp hline).1
  cases h with
  | finished _ => exact hs
  | blank hline _ => exact hnext hline
  | misplaced _ _ _ => exact hs
  | left _ _ _ _ => exact hs
  | skipped hline _ _ _ => exact hnext hline
  | @dispatched line _ hline _ _ _ ho =>
    have hdispatched := m.dispatched s (line.drop s.depth)
    rw [← ho] at hdispatched
    cases hdispatched with
    | unrecognized _ => exact hs
    | failed _ _ => exact (m.execStatement_performs s _).line.trans_le hs
    | @completed statement target _ hresult =>
      cases target with
      | none =>
        show (m.execStatement s statement).state.line + 1 ≤ m.program.size
        rw [(m.execStatement_performs s statement).line]
        exact hnext hline
      | some target => exact (lt_size_of_execStatement hresult).le

/-! ### The invariant -/

/-- The cursor is in place: its line is one of the program or behind the last, and its depth comes
in whole units and is none, that of a line, or one unit more than that of a condition. -/
structure Placed (m : Machine) (s : State) : Prop where
  line_le : s.line ≤ m.program.size
  dvd_depth : m.unit ∣ s.depth
  depth_eq : s.depth = 0 ∨
    (∃ line ∈ m.program.lines, allBlank line = false ∧ s.depth = depthOf line) ∨
    ∃ line ∈ m.program.lines, allBlank line = false ∧ kindOf? line = some .branch ∧
      s.depth = depthOf line + m.unit

/-- The cursor is in place before the first step. -/
theorem placed_start (m : Machine) (store : Store) (console : Console) :
    m.Placed { store, console } :=
  ⟨Nat.zero_le _, Nat.dvd_zero _, .inl rfl⟩

/-- Every step keeps the cursor in place. -/
theorem Placed.step (h : m.Placed s) : m.Placed (m.step s).state := by
  have hstepped := m.stepped s
  have hline := hstepped.line_le h.line_le
  have hmoves := hstepped.moves
  generalize (m.step s).state = t at hline hmoves
  obtain ⟨line, depth, store, console, journal⟩ := t
  cases hmoves with
  | stays => exact ⟨hline, h.dvd_depth, h.depth_eq⟩
  | leaves hat hblank hindent _ =>
    exact ⟨hline, hindent.dvd_depth, .inr (.inl ⟨_, Array.mem_of_getElem? hat, hblank, rfl⟩)⟩
  | @enters line statement condition hat hblank hdepth hparse haction _ =>
    -- The depth before the step is that of the condition, not of the block it was entered from.
    refine ⟨hline, Nat.dvd_add h.dvd_depth (Nat.dvd_refl _), .inr (.inr ?_)⟩
    have hkind : kindOf? line = some .branch := by
      rw [← hdepth] at hparse
      rw [kindOf?_of_parse hparse, Statement.kind, haction]
      rfl
    exact ⟨line, Array.mem_of_getElem? hat, hblank, hkind, congrArg (· + m.unit) hdepth.symm⟩

/-- A cursor in place is at most one unit deeper than the deepest line. -/
theorem Placed.depth_le (h : m.Placed s) {bound : Nat}
    (hbound : ∀ line ∈ m.program.lines, allBlank line = false → depthOf line ≤ bound) :
    s.depth ≤ bound + m.unit := by
  obtain hzero | ⟨line, hmem, hblank, hdepth⟩ | ⟨line, hmem, hblank, -, hdepth⟩ := h.depth_eq
  · omega
  · have hle := hbound line hmem hblank
    omega
  · have hle := hbound line hmem hblank
    omega

/-- **The cursor stays in place throughout a run.** In every state of a run that starts at the first
line in a block of depth zero, the line and the depth are those of the program, the depth exceeds
that of the deepest line by at most one unit, the next step executes nothing but the statement at
the cursor, and it changes the depth only where a block ends or a condition holds. -/
theorem run_cursor (m : Machine) (store : Store) (console : Console) (n : Nat) :
    let s := (m.run n { store, console }).state
    m.Placed s ∧
      (∀ bound, (∀ line ∈ m.program.lines, allBlank line = false → depthOf line ≤ bound) →
        s.depth ≤ bound + m.unit) ∧
      m.Executes s (m.step s) ∧ m.Moves s (m.step s).state.depth := by
  intro s
  have hplaced : m.Placed s :=
    run_state_induction (fun _ => Placed.step) (m.placed_start store console) n
  exact ⟨hplaced, fun _ => hplaced.depth_le, (m.stepped s).executes, (m.stepped s).moves⟩

end Machine

end LineScript
