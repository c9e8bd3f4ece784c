import LineScript.Proofs.Step

/-!
# What statements do

Apart from the cursor, a statement sees and changes only the `World`: the variables and the console.
`World.perform` says what an action does there and which `Turn` it takes afterwards: on to the next
line, into the block below, or to a line whose number it has computed. `World.execute` does so for a
statement, if its kind is supported. What a turn makes of the cursor is for the machine to say.

`execAction_performs` is the one lemma about the five handlers; everything else about them is read
off `World.perform`.
-/

namespace LineScript

/-- What a statement can see and change besides the cursor. -/
@[ext]
structure World where
  store : Store
  console : Console
  deriving DecidableEq

/-- The world of a state. -/
def State.world (s : State) : World := ⟨s.store, s.console⟩

/-- Where a statement goes when it has been executed. -/
inductive Turn where
  /-- On to the next line. -/
  | next
  /-- Into the block below. -/
  | enter
  /-- To the line with a number. -/
  | jump (target : Int)
  deriving DecidableEq

namespace World

/-- Carries out an action: the world it leaves, and the turn it takes or the reason for which it
fails. -/
def perform (w : World) : Action → World × Except Failure Turn
  | .input target =>
    match Variable.resolve target with
    | .error f => (w, .error (.script f))
    | .ok v =>
      let reading := w.console.readInteger target
      match reading.result with
      | .error cause => ({ w with console := reading.console }, .error cause)
      | .ok value => (⟨w.store.set v value, reading.console⟩, .ok .next)
  | .assignment target expression =>
    match Variable.resolve target with
    | .error f => (w, .error (.script f))
    | .ok v =>
      match evalArithmetic w.store expression with
      | .error f => (w, .error (.script f))
      | .ok value => ({ w with store := w.store.set v value.toInt }, .ok .next)
  | .output expression =>
    match evalArithmetic w.store expression >>= fun value => formatInt value.toInt with
    | .error f => (w, .error (.script f))
    | .ok text =>
      match w.console.emit (Text.toString text) with
      | .error cause => (w, .error cause)
      | .ok console => ({ w with console }, .ok .next)
  | .branch condition =>
    match evalCondition w.store condition with
    | .error f => (w, .error (.script f))
    | .ok true => (w, .ok .enter)
    | .ok false => (w, .ok .next)
  | .jump expression =>
    match evalArithmetic w.store expression with
    | .error f => (w, .error (.script f))
    | .ok value => (w, .ok (.jump value.toInt))

/-- Which action takes which turn: only a condition that holds leads into the block below, and a
jump to the line whose number it computes. -/
theorem perform_turn {w : World} {action : Action} {turn : Turn}
    (h : (w.perform action).2 = .ok turn) :
    (turn = .next ∧ action.kind ≠ .jump) ∨
    (turn = .enter ∧
      ∃ condition, action = .branch condition ∧ evalCondition w.store condition = .ok true) ∨
    ∃ expression value, turn = .jump value.toInt ∧ action = .jump expression ∧
      evalArithmetic w.store expression = .ok value := by
  cases action with
  | input target =>
    refine .inl ⟨?_, nofun⟩
    rw [perform] at h
    split at h
    · cases h
    · dsimp only at h
      split at h <;> cases h
      rfl
  | assignment target expression =>
    refine .inl ⟨?_, nofun⟩
    rw [perform] at h
    split at h
    · cases h
    · split at h <;> cases h
      rfl
  | output expression =>
    refine .inl ⟨?_, nofun⟩
    rw [perform] at h
    split at h
    · cases h
    · split at h <;> cases h
      rfl
  | branch condition =>
    rw [perform] at h
    split at h
    · cases h
    · rename_i hholds
      cases h
      exact .inr (.inl ⟨rfl, condition, rfl, hholds⟩)
    · cases h
      exact .inl ⟨rfl, nofun⟩
  | jump expression =>
    rw [perform] at h
    split at h
    · cases h
    · rename_i value hvalue
      cases h
      exact .inr (.inr ⟨expression, value, rfl, rfl, hvalue⟩)

/-- Executes a statement, unless its kind is not supported. -/
def execute (w : World) (settings : Settings) (statement : Statement) :
    World × Except Failure Turn :=
  if statement.kind ∈ settings.unsupported then (w, .error (.unsupported statement.kind))
  else w.perform statement.action

/-- A statement that takes a turn has been performed. -/
theorem execute_eq_perform {w : World} {settings : Settings} {statement : Statement} {turn : Turn}
    (h : (w.execute settings statement).2 = .ok turn) :
    w.execute settings statement = w.perform statement.action := by
  rw [execute] at h ⊢
  split at h
  · cases h
  · rename_i hkind
    exact if_neg hkind

end World

namespace Machine

variable {m : Machine} {s : State}

/-- The line, if any, to which a turn leads from a block of some depth. -/
def follow (m : Machine) (depth : Nat) : Turn → Except Failure (Option Nat)
  | .next => .ok none
  | .enter => .ok none
  | .jump target => ((m.jumpIndex depth target).mapError .script).map some

/-- An effect is what becomes of a state when an action has had a given result on its world. -/
structure Performs (m : Machine) (s : State) (r : World × Except Failure Turn) (e : Effect) :
    Prop where
  world : e.state.world = r.1
  line : e.state.line = s.line
  depth : e.state.depth = if r.2 = .ok .enter then s.depth + m.unit else s.depth
  result : e.result = r.2.bind (m.follow s.depth)

/-- The handlers do to the world what their actions say, and leave the rest to the turn. -/
theorem execAction_performs (m : Machine) (s : State) (action : Action) :
    m.Performs s (s.world.perform action) (m.execAction s action) := by
  cases action with
  | input target =>
    rw [execAction, execInput, World.perform]
    cases Variable.resolve target with
    | error f => exact ⟨rfl, rfl, rfl, rfl⟩
    | ok v =>
      dsimp only [State.world]
      cases (s.console.readInteger target).result with
      | error cause => exact ⟨rfl, rfl, rfl, rfl⟩
      | ok value => exact ⟨rfl, rfl, rfl, rfl⟩
  | assignment target expression =>
    rw [execAction, execAssignment, World.perform]
    cases Variable.resolve target with
    | error f => exact ⟨rfl, rfl, rfl, rfl⟩
    | ok v =>
      dsimp only [State.world]
      cases evalArithmetic s.store expression with
      | error f => exact ⟨rfl, rfl, rfl, rfl⟩
      | ok value => exact ⟨rfl, rfl, rfl, rfl⟩
  | output expression =>
    rw [execAction, execOutput, World.perform]
    dsimp only [State.world]
    cases evalArithmetic s.store expression >>= fun value => formatInt value.toInt with
    | error f => exact ⟨rfl, rfl, rfl, rfl⟩
    | ok text =>
      dsimp only [Console.emit]
      cases s.console.closed with
      | true => exact ⟨rfl, rfl, rfl, rfl⟩
      | false => exact ⟨rfl, rfl, rfl, rfl⟩
  | branch condition =>
    rw [execAction, execBranch, World.perform]
    dsimp only [State.world]
    cases evalCondition s.store condition with
    | error f => exact ⟨rfl, rfl, rfl, rfl⟩
    | ok holds => cases holds <;> exact ⟨rfl, rfl, rfl, rfl⟩
  | jump expression =>
    rw [execAction, execJump, World.perform]
    dsimp only [State.world]
    cases evalArithmetic s.store expression with
    | error f => exact ⟨rfl, rfl, rfl, rfl⟩
    | ok value =>
      -- The target is looked up by the handler, and when the turn is followed.
      dsimp only [bind, Except.bind]
      cases hindex : m.jumpIndex s.depth value.toInt with
      | error f =>
        refine ⟨rfl, rfl, rfl, ?_⟩
        show _ = m.follow s.depth (.jump value.toInt)
        rw [follow, hindex]
        rfl
      | ok index =>
        refine ⟨rfl, rfl, rfl, ?_⟩
        show _ = m.follow s.depth (.jump value.toInt)
        rw [follow, hindex]
        rfl

/-- The same for a statement, which is noted before it is executed or found not to be supported. -/
theorem execStatement_performs (m : Machine) (s : State) (statement : Statement) :
    m.Performs s (s.world.execute m.settings statement) (m.execStatement s statement) := by
  rw [execStatement, World.execute]
  split
  · exact ⟨rfl, rfl, rfl, rfl⟩
  · obtain ⟨hworld, hline, hdepth, hresult⟩ :=
      m.execAction_performs (s.note (.dispatched (s.line + 1) s.depth statement)) statement.action
    exact ⟨hworld, hline, hdepth, hresult⟩

end Machine

end LineScript
