import LineScript.Proofs.Dispatch

/-!
# Machines in lockstep

Two machines run in lockstep when the states of the one can be read as states of the other, step by
step. Here such a reading is a function on states: a `Translation` moves lines down by a number of
places, changes depths, variables and the console in some way, and notes events accordingly.

What a step comes to is cut into three parts, and each part has its own condition:

* what the machine sees at the cursor (`Machine.view`), which depends on the program and the cursor
  only;
* what the statement there does (`Translation.Agrees`), if one is executed;
* how a change of depth is translated (`Translation.Fits`).

A translation that meets all three takes steps to steps (`Translation.step_state`), and so runs to
runs (`Machine.run_map`). Machines that agree on states as they are need no translation, and
`Machine.execStatement_congr` says what they have to agree on.
-/

namespace LineScript

open Text

/-! ### What a machine sees -/

/-- What a machine sees at its cursor. -/
inductive View where
  /-- There is no line left. -/
  | nothing
  /-- A line that is blank or deeper than the current block. -/
  | pass
  /-- A line that is badly indented. -/
  | faulty (cause : Failure)
  /-- A line that is less deep than the current block. -/
  | shallower (depth : Nat)
  /-- A line of the current block, without its indentation. -/
  | here (text : Text)
  deriving DecidableEq

/-- The view with its depth changed. -/
def View.mapDepth (f : Nat → Nat) : View → View
  | shallower depth => shallower (f depth)
  | v => v

/-- What is seen of a line from within a block of some depth. -/
def viewLine (unit depth : Nat) (line : Text) : View :=
  if allBlank line then .pass
  else
    match indentFailure? unit line with
    | some cause => .faulty cause
    | none =>
      if depthOf line < depth then .shallower (depthOf line)
      else if depth < depthOf line then .pass
      else .here (line.drop (depthOf line))

namespace Outcome

/-- The outcome with its state changed. -/
def map (f : State → State) : Outcome → Outcome
  | running s => running (f s)
  | finished s => finished (f s)
  | failed s cause => failed (f s) cause

@[simp] theorem state_map (f : State → State) (o : Outcome) : (o.map f).state = f o.state := by
  cases o <;> rfl

end Outcome

namespace Machine

variable {m m' : Machine} {s : State}

/-- What a machine sees from a cursor. -/
def view (m : Machine) (line depth : Nat) : View :=
  match m.program.line? line with
  | none => .nothing
  | some text => viewLine m.unit depth text

/-- What is executed stands on a line, behind its indentation. -/
theorem exists_line_of_view {i depth : Nat} {text : Text} (h : m.view i depth = .here text) :
    ∃ line, m.program.line? i = some line ∧ text = line.drop (depthOf line) := by
  rw [view] at h
  cases hline : m.program.line? i with
  | none =>
    rw [hline] at h
    cases h
  | some line =>
    simp only [hline] at h
    unfold viewLine at h
    refine ⟨line, rfl, ?_⟩
    split at h
    · cases h
    · split at h
      · cases h
      · split_ifs at h
        exact (View.here.inj h).symm

/-- What comes of a view. -/
def react (m : Machine) (s : State) : View → Outcome
  | .nothing => .finished s
  | .pass => .running s.advance
  | .faulty cause => .failed s cause
  | .shallower depth => .running ({ s with depth }.note (.left s.depth depth))
  | .here text => m.dispatch s text

/-- A step reacts to what is seen at the cursor. -/
theorem step_eq_react (m : Machine) (s : State) : m.step s = m.react s (m.view s.line s.depth) := by
  rw [step, view]
  cases m.program.line? s.line with
  | none => rfl
  | some line =>
    dsimp only
    rw [viewLine]
    cases allBlank line with
    | true => rfl
    | false =>
      rw [if_neg Bool.false_ne_true, if_neg Bool.false_ne_true, visit, indentFailure?]
      split_ifs <;> rfl

/-- A statement does the same on two machines that agree on the line it jumps to, if it does. -/
theorem execStatement_congr (hsettings : m'.settings = m.settings) (statement : Statement)
    (hjump : ∀ expression value, statement.action = .jump expression →
      evalArithmetic s.store expression = .ok value →
      m'.jumpIndex s.depth value.toInt = m.jumpIndex s.depth value.toInt) :
    m'.execStatement s statement = m.execStatement s statement := by
  have haction (e : Event) :
      m'.execAction (s.note e) statement.action = m.execAction (s.note e) statement.action := by
    cases haction : statement.action with
    | branch condition => rw [execAction, execAction, execBranch, execBranch, unit, unit, hsettings]
    | jump expression =>
      rw [execAction, execAction, execJump, execJump]
      dsimp only [State.note]
      cases hvalue : evalArithmetic s.store expression with
      | error f => rfl
      | ok value =>
        have hindex := hjump expression value haction hvalue
        dsimp only [bind, Except.bind]
        rw [hindex]
    | _ => rfl
  rw [execStatement, execStatement, hsettings, haction]

/-- A line is executed in the same way if the statement on it is. -/
theorem dispatch_congr {text : Text} (h : ∀ statement, Statement.parse text = .ok statement →
    m'.execStatement s statement = m.execStatement s statement) :
    m'.dispatch s text = m.dispatch s text := by
  rw [dispatch, dispatch]
  cases hparse : Statement.parse text with
  | error f => rfl
  | ok statement =>
    dsimp only
    rw [h statement hparse]

/-- Runs are translated as steps are, where `P` is what the steps keep. -/
theorem run_map {f : State → State} {P : State → Prop}
    (hstep : ∀ s, P s → m'.step (f s) = (m.step s).map f)
    (hkeep : ∀ s s', P s → m.step s = .running s' → P s') (hs : P s) (n : Nat) :
    m'.run n (f s) = (m.run n s).map f := by
  induction n generalizing s with
  | zero => rfl
  | succ n ih =>
    have hfirst := hstep s hs
    cases hnext : m.step s with
    | running s' =>
      rw [hnext] at hfirst
      rw [run_succ_of_running hnext, run_succ_of_running hfirst]
      exact ih (hkeep s s' hs hnext)
    | finished s' =>
      rw [hnext] at hfirst
      rw [run_succ_of_stop hnext nofun, run_succ_of_stop hfirst nofun]
    | failed s' cause =>
      rw [hnext] at hfirst
      rw [run_succ_of_stop hnext nofun, run_succ_of_stop hfirst nofun]

end Machine

/-! ### Translations -/

/-- The event with its line moved down by `shift` places and its depths changed. -/
def Event.translate (shift : Nat) (depth : Nat → Nat) : Event → Event
  | dispatched line d statement => dispatched (line + shift) (depth d) statement
  | completed d target => completed (depth d) (target.map (· + shift))
  | entered d => entered (depth d)
  | left before after => left (depth before) (depth after)
  | jumped line => jumped (line + shift)
  | rejected length => rejected length
  | stopped filename line message => stopped filename (line + shift) message

theorem Event.translate_id (e : Event) : e.translate 0 id = e := by
  cases e with
  | completed d target => cases target <;> rfl
  | _ => rfl

/-- A way to read the states of one machine as states of another, part by part. Reading and writing
at the console are not affected by it. -/
structure Translation where
  /-- The number of places by which lines are moved down. -/
  shift : Nat
  depth : Nat → Nat
  store : Store → Store
  console : Console → Console
  journal : Journal → Journal
  journal_push : ∀ j e, journal (j.push e) = (journal j).push (e.translate shift depth)
  closed_console : ∀ c, (console c).closed = c.closed
  console_write : ∀ c line, console (c.write line) = (console c).write line
  readInteger_console : ∀ c name, (console c).readInteger name =
    { c.readInteger name with console := console (c.readInteger name).console }

namespace Translation

/-- The translation that leaves states as they are. -/
def unchanged : Translation where
  shift := 0
  depth := id
  store := id
  console := id
  journal := id
  journal_push _ e := by rw [e.translate_id]; rfl
  closed_console _ := rfl
  console_write _ _ := rfl
  readInteger_console _ _ := rfl

variable (T : Translation) {m m' : Machine}

/-- The translated state. -/
def state (s : State) : State where
  line := s.line + T.shift
  depth := T.depth s.depth
  store := T.store s.store
  console := T.console s.console
  journal := T.journal s.journal

/-- The translated effect of a statement. -/
def effect (e : Machine.Effect) : Machine.Effect where
  state := T.state e.state
  result := e.result.map (Option.map (· + T.shift))

theorem state_note (s : State) (e : Event) :
    T.state (s.note e) = (T.state s).note (e.translate T.shift T.depth) := by
  simp only [state, State.note, T.journal_push]

theorem state_advance (s : State) : T.state s.advance = (T.state s).advance := by
  simp only [state, State.advance, Nat.add_right_comm]

theorem journal_rejected (lengths : List Nat) (j : Journal) :
    T.journal (lengths.foldl (fun j n => j.push (.rejected n)) j) =
      lengths.foldl (fun j n => j.push (.rejected n)) (T.journal j) := by
  induction lengths generalizing j with
  | nil => rfl
  | cons n lengths ih =>
    rw [List.foldl_cons, List.foldl_cons, ih, T.journal_push]
    rfl

/-- What an action reads and sets is the same on both sides: the value of its expression, the
variable it sets, and the line it jumps to. -/
structure Agrees (m m' : Machine) (action : Action) : Prop where
  arithmetic : ∀ e ∈ action.expression?, ∀ store,
    evalArithmetic (T.store store) e = evalArithmetic store e
  condition : ∀ e ∈ action.expression?, ∀ store,
    evalCondition (T.store store) e = evalCondition store e
  store_set : ∀ t ∈ action.target?, ∀ v, Variable.resolve t = .ok v →
    ∀ store value, T.store (store.set v value) = (T.store store).set v value
  jumpIndex : action.kind = .jump → ∀ depth target,
    m'.jumpIndex (T.depth depth) target = (m.jumpIndex depth target).map (· + T.shift)

/-- Two machines support the same statements, and what is one level of indentation for the one is
one level for the other. -/
structure Fits (m m' : Machine) : Prop where
  unsupported : m'.settings.unsupported = m.settings.unsupported
  depth_add : ∀ depth, T.depth (depth + m.unit) = T.depth depth + m'.unit

variable {T}

theorem execAction_state (hfits : T.Fits m m') {action : Action} (h : T.Agrees m m' action)
    (s : State) : m'.execAction (T.state s) action = T.effect (m.execAction s action) := by
  cases action with
  | input target =>
    rw [Machine.execAction, Machine.execAction, Machine.execInput, Machine.execInput]
    cases hv : Variable.resolve target with
    | error f => rfl
    | ok v =>
      have hread : (T.state s).console.readInteger target = _ :=
        T.readInteger_console s.console target
      dsimp only
      rw [hread]
      dsimp only
      cases (s.console.readInteger target).result with
      | error cause => simp only [effect, state, Except.map, journal_rejected]
      | ok value =>
        simp only [effect, state, Except.map, journal_rejected, Machine.Effect.proceed,
          h.store_set target rfl v hv, Option.map_none]
  | assignment target expression =>
    have heval : evalArithmetic (T.state s).store expression = evalArithmetic s.store expression :=
      h.arithmetic expression rfl s.store
    rw [Machine.execAction, Machine.execAction, Machine.execAssignment, Machine.execAssignment,
      heval]
    cases hv : Variable.resolve target with
    | error f => rfl
    | ok v =>
      cases evalArithmetic s.store expression with
      | error f => rfl
      | ok value =>
        simp only [effect, state, Except.map, Machine.Effect.proceed,
          h.store_set target rfl v hv, Option.map_none]
  | output expression =>
    have heval : evalArithmetic (T.state s).store expression = evalArithmetic s.store expression :=
      h.arithmetic expression rfl s.store
    have hclosed : (T.state s).console.closed = s.console.closed := T.closed_console s.console
    rw [Machine.execAction, Machine.execAction, Machine.execOutput, Machine.execOutput, heval]
    cases evalArithmetic s.store expression >>= fun value => formatInt value.toInt with
    | error f => rfl
    | ok text =>
      dsimp only
      rw [hclosed]
      cases s.console.closed with
      | true => rfl
      | false =>
        simp only [Bool.false_eq_true, if_false, effect, state, Except.map,
          Machine.Effect.proceed, T.console_write, Option.map_none]
  | branch condition =>
    have heval : evalCondition (T.state s).store condition = evalCondition s.store condition :=
      h.condition condition rfl s.store
    rw [Machine.execAction, Machine.execAction, Machine.execBranch, Machine.execBranch, heval]
    cases evalCondition s.store condition with
    | error f => rfl
    | ok holds =>
      cases holds with
      | false => rfl
      | true =>
        have hdepth : (T.state s).depth + m'.unit = T.depth (s.depth + m.unit) :=
          (hfits.depth_add s.depth).symm
        dsimp only
        rw [hdepth, Machine.Effect.proceed, effect, Machine.Effect.proceed, T.state_note]
        rfl
  | jump expression =>
    have heval : evalArithmetic (T.state s).store expression = evalArithmetic s.store expression :=
      h.arithmetic expression rfl s.store
    rw [Machine.execAction, Machine.execAction, Machine.execJump, Machine.execJump, heval]
    cases evalArithmetic s.store expression with
    | error f => rfl
    | ok value =>
      have hindex : m'.jumpIndex (T.state s).depth value.toInt = _ :=
        h.jumpIndex rfl s.depth value.toInt
      dsimp only [bind, Except.bind]
      rw [hindex]
      cases m.jumpIndex s.depth value.toInt with
      | error f => rfl
      | ok index =>
        simp only [Except.map, effect, T.state_note, Event.translate, Option.map_some,
          Nat.add_right_comm]

theorem execStatement_state (hfits : T.Fits m m') {statement : Statement}
    (h : T.Agrees m m' statement.action) (s : State) :
    m'.execStatement (T.state s) statement = T.effect (m.execStatement s statement) := by
  have hnote : (T.state s).note (.dispatched ((T.state s).line + 1) (T.state s).depth statement) =
      T.state (s.note (.dispatched (s.line + 1) s.depth statement)) := by
    rw [T.state_note, Event.translate, Nat.add_right_comm]
    rfl
  rw [Machine.execStatement, Machine.execStatement, hfits.unsupported, hnote]
  split
  · rfl
  · exact execAction_state hfits h _

/-- Executing a line is translated if the statement on it agrees with the translation. -/
theorem dispatch_state (hfits : T.Fits m m') {text : Text}
    (h : ∀ statement, Statement.parse text = .ok statement → T.Agrees m m' statement.action)
    (s : State) : m'.dispatch (T.state s) text = (m.dispatch s text).map T.state := by
  rw [Machine.dispatch, Machine.dispatch]
  cases hparse : Statement.parse text with
  | error f => rfl
  | ok statement =>
    dsimp only
    rw [execStatement_state hfits (h statement hparse)]
    cases hresult : (m.execStatement s statement).result with
    | error cause => simp only [effect, hresult, Except.map, Outcome.map]
    | ok target =>
      simp only [effect, hresult, Except.map, Outcome.map]
      cases target with
      | none => simp [state, State.note, T.journal_push, Event.translate, Nat.add_right_comm]
      | some index => simp [state, State.note, T.journal_push, Event.translate, Nat.add_right_comm]

/-- **A translation takes steps to steps** when the two machines see the same at the two cursors and
the statement there, if it is executed, agrees with the translation. -/
theorem step_state (hfits : T.Fits m m') {s : State}
    (hview : m'.view (s.line + T.shift) (T.depth s.depth) =
      (m.view s.line s.depth).mapDepth T.depth)
    (hagrees : ∀ text statement, m.view s.line s.depth = .here text →
      Statement.parse text = .ok statement → T.Agrees m m' statement.action) :
    m'.step (T.state s) = (m.step s).map T.state := by
  have hview' : m'.view (T.state s).line (T.state s).depth = _ := hview
  rw [Machine.step_eq_react, Machine.step_eq_react, hview']
  cases hseen : m.view s.line s.depth with
  | nothing => rfl
  | pass => exact congrArg Outcome.running (T.state_advance s).symm
  | faulty f => rfl
  | shallower depth =>
    refine congrArg Outcome.running ?_
    rw [T.state_note]
    rfl
  | here text => exact dispatch_state hfits (fun statement => hagrees text statement hseen) s

end Translation

end LineScript
