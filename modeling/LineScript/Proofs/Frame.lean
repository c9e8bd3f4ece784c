import LineScript.Proofs.Dispatch
import LineScript.Proofs.Reading
import LineScript.Proofs.Report

/-!
# What statements change, and what they leave alone

A statement that succeeds changes what its action is about and nothing else: a variable, the output,
the depth of the current block, or the line of the cursor. `Machine.Succeeds` spells this out for
the five actions. A statement that fails has changed neither a variable nor the cursor, and only one
that reads an integer can have used the console before it failed (`Machine.Fails`).

So the variables at any point of a run are those that the statements executed so far have left, one
after the other (`World.replay`, `Machine.Reaches.world`), and a run that fails leaves them as they
were before the line it fails at.
-/

namespace LineScript

open Text

/-! ### Asking for an integer -/

namespace Console

/-- What asking for an integer may do to a console: prompts are written and lines taken from the
input. -/
structure Asked (name : Text) (c c' : Console) : Prop where
  written : ∃ again, c'.written.toList =
    c.written.toList ++ prompt name :: List.replicate again promptAgain
  input : c'.input <:+ c.input
  closed : c'.closed = c.closed

@[simp] theorem written_ask (c : Console) (line : String) :
    (c.ask line).written.toList = c.written.toList ++ [line] :=
  Array.toList_push

/-- Reading an integer asks for it, unless the console is closed. -/
theorem asked_readInteger {c : Console} (hopen : c.closed = false) (name : Text) :
    c.Asked name (c.readInteger name).console := by
  obtain ⟨again, input, hinput, hconsole⟩ := exists_console_readInteger hopen name
  rw [hconsole]
  exact ⟨⟨again, by simp [askAgain]⟩, hinput, rfl⟩

theorem eq_or_asked_readInteger (c : Console) (name : Text) :
    (c.readInteger name).console = c ∨ c.Asked name (c.readInteger name).console := by
  cases hopen : c.closed with
  | true => exact .inl (by rw [readInteger, if_pos hopen])
  | false => exact .inr (asked_readInteger hopen name)

theorem open_of_readInteger {c : Console} {name : Text} {value : Int}
    (h : (c.readInteger name).result = .ok value) : c.closed = false := by
  rw [← Bool.not_eq_true]
  intro hclosed
  rw [readInteger, if_pos hclosed] at h
  cases h

end Console

theorem Console.eq_write_of_emit {c c' : Console} {line : String} (h : c.emit line = .ok c') :
    c' = c.write line := by
  rw [emit] at h
  split at h <;> cases h
  rfl

theorem eq_decimal_of_formatInt {v : Int} {t : Text} (h : formatInt v = .ok t) :
    t = Numeral.decimal v := by
  rw [formatInt_eq] at h
  by_cases hlt : v.natAbs < 10 ^ Numeral.digitLimit
  · rw [if_pos hlt] at h
    exact (Except.ok.inj h).symm
  · rw [if_neg hlt] at h
    cases h

/-! ### Single statements -/

/-- An action that fails leaves the variables alone, and the console too unless it has asked for an
integer. -/
theorem World.perform_error {w w' : World} {action : Action} {cause : Failure}
    (h : w.perform action = (w', .error cause)) :
    w'.store = w.store ∧
      (w'.console = w.console ∨
        ∃ target, action = .input target ∧ w.console.Asked target w'.console) := by
  cases action with
  | input target =>
    rw [perform] at h
    split at h
    · cases h
      exact ⟨rfl, .inl rfl⟩
    · dsimp only at h
      split at h
      · cases h
        refine ⟨rfl, (w.console.eq_or_asked_readInteger target).imp_right fun hasked => ?_⟩
        exact ⟨target, rfl, hasked⟩
      · cases h
  | assignment target expression =>
    rw [perform] at h
    split at h
    · cases h
      exact ⟨rfl, .inl rfl⟩
    · split at h <;> cases h
      exact ⟨rfl, .inl rfl⟩
  | output expression =>
    rw [perform] at h
    split at h
    · cases h
      exact ⟨rfl, .inl rfl⟩
    · split at h <;> cases h
      exact ⟨rfl, .inl rfl⟩
  | branch condition =>
    rw [perform] at h
    split at h <;> cases h
    exact ⟨rfl, .inl rfl⟩
  | jump expression =>
    rw [perform] at h
    split at h <;> cases h
    exact ⟨rfl, .inl rfl⟩

/-- Computing the number of a line to jump to changes nothing. -/
theorem World.perform_jump {w w' : World} {action : Action} {target : Int}
    (h : w.perform action = (w', .ok (.jump target))) : w' = w := by
  obtain ⟨hturn, -⟩ | ⟨hturn, -⟩ | ⟨expression, value, -, rfl, hvalue⟩ :=
    perform_turn (congrArg Prod.snd h)
  · cases hturn
  · cases hturn
  · rw [perform, hvalue] at h
    exact (congrArg Prod.fst h).symm

namespace Machine

variable {m : Machine} {s s' : State} {statement : Statement} {action : Action}

/-- What a statement that fails has changed: at most the console, and that only by asking for an
integer. -/
structure Fails (s s' : State) (action : Action) : Prop where
  store : s'.store = s.store
  line : s'.line = s.line
  depth : s'.depth = s.depth
  console : s'.console = s.console ∨
    ∃ target, action = .input target ∧ s.console.Asked target s'.console

/-- What a statement that succeeds has changed, for each action. -/
inductive Succeeds (m : Machine) (s s' : State) : Action → Prop where
  /-- The variable has the integer that was read at the console. -/
  | input {target : Text} {v : Variable} {value : Int} :
      Variable.resolve target = .ok v →
      (s.console.readInteger target).result = .ok value →
      (∀ u, s'.store.get? u = if v = u then some value else s.store.get? u) →
      s.console.Asked target s'.console →
      s'.line = s.line + 1 → s'.depth = s.depth → Succeeds m s s' (.input target)
  /-- The variable has the value of the expression. -/
  | assignment {target expression : Text} {v : Variable} {value : Value} :
      Variable.resolve target = .ok v → evalArithmetic s.store expression = .ok value →
      (∀ u, s'.store.get? u = if v = u then some value.toInt else s.store.get? u) →
      s'.console = s.console →
      s'.line = s.line + 1 → s'.depth = s.depth → Succeeds m s s' (.assignment target expression)
  /-- The decimal text of the value and a line feed have been written. -/
  | output {expression : Text} {value : Value} :
      evalArithmetic s.store expression = .ok value →
      s'.console.output =
        s.console.output ++ Text.toString (Numeral.decimal value.toInt) ++ "\n" →
      s'.console.input = s.console.input → s'.store = s.store →
      s'.line = s.line + 1 → s'.depth = s.depth → Succeeds m s s' (.output expression)
  /-- The block below has been entered if the condition holds. -/
  | branch {condition : Text} {holds : Bool} :
      evalCondition s.store condition = .ok holds →
      s'.store = s.store → s'.console = s.console →
      s'.line = s.line + 1 → s'.depth = (if holds then s.depth + m.unit else s.depth) →
      Succeeds m s s' (.branch condition)
  /-- The cursor is at the target. -/
  | jump {expression : Text} {value : Value} :
      evalArithmetic s.store expression = .ok value →
      m.jumpIndex s.depth value.toInt = .ok s'.line →
      s'.store = s.store → s'.console = s.console → s'.depth = s.depth →
      Succeeds m s s' (.jump expression)

/-- Where a turn leads the cursor. -/
private def Turns (m : Machine) (s s' : State) : Turn → Prop
  | .next => s'.line = s.line + 1 ∧ s'.depth = s.depth
  | .enter => s'.line = s.line + 1 ∧ s'.depth = s.depth + m.unit
  | .jump target => m.jumpIndex s.depth target = .ok s'.line ∧ s'.depth = s.depth

private theorem succeeds_of_perform {turn : Turn}
    (h : s.world.perform action = (s'.world, .ok turn)) (hturn : m.Turns s s' turn) :
    m.Succeeds s s' action := by
  have hstore : s'.store = s'.world.store := rfl
  have hconsole : s'.console = s'.world.console := rfl
  generalize s'.world = w' at h hstore hconsole
  cases action with
  | input target =>
    rw [World.perform] at h
    split at h
    · cases h
    · rename_i v hv
      dsimp only at h
      split at h <;> cases h
      rename_i value hvalue
      refine .input hv hvalue (fun u => ?_) ?_ hturn.1 hturn.2
      · rw [hstore]
        exact s.store.get?_set v u value
      · rw [hconsole]
        exact Console.asked_readInteger (Console.open_of_readInteger hvalue) target
  | assignment target expression =>
    rw [World.perform] at h
    split at h
    · cases h
    · rename_i v hv
      split at h <;> cases h
      rename_i value hvalue
      refine .assignment hv hvalue (fun u => ?_) hconsole hturn.1 hturn.2
      rw [hstore]
      exact s.store.get?_set v u value.toInt
  | output expression =>
    rw [World.perform] at h
    cases hvalue : evalArithmetic s.world.store expression with
    | error f =>
      rw [hvalue] at h
      cases h
    | ok value =>
      rw [hvalue] at h
      dsimp only [bind, Except.bind] at h
      split at h
      · cases h
      · rename_i text htext
        split at h <;> cases h
        rename_i console hemit
        rw [Console.eq_write_of_emit hemit, eq_decimal_of_formatInt htext] at hconsole
        refine .output hvalue ?_ ?_ hstore hturn.1 hturn.2
        · rw [hconsole]
          exact s.console.output_write _
        · rw [hconsole]
          rfl
  | branch condition =>
    rw [World.perform] at h
    split at h
    · cases h
    · rename_i hholds
      cases h
      exact .branch hholds hstore hconsole hturn.1 hturn.2
    · rename_i hholds
      cases h
      exact .branch hholds hstore hconsole hturn.1 hturn.2
  | jump expression =>
    rw [World.perform] at h
    split at h <;> cases h
    rename_i value hvalue
    exact .jump hvalue hturn.1 hstore hconsole hturn.2

/-- A statement that cannot be executed leaves everything but the console alone. -/
private theorem fails_of_execute {cause : Failure}
    (h : s.world.execute m.settings statement = (s'.world, .error cause))
    (hline : s'.line = s.line) (hdepth : s'.depth = s.depth) : Fails s s' statement.action := by
  rw [World.execute] at h
  split at h
  · have hworld : s.world = s'.world := congrArg Prod.fst h
    exact ⟨congrArg World.store hworld.symm, hline, hdepth,
      .inl (congrArg World.console hworld.symm)⟩
  · obtain ⟨hstore, hconsole⟩ := World.perform_error h
    exact ⟨hstore, hline, hdepth, hconsole⟩

/-- A statement either fails or succeeds, and in both cases changes only what it is about. -/
theorem fails_or_succeeds (h : m.statementAt? s = some statement) :
    (∃ s' cause, m.step s = .failed s' cause ∧ Fails s s' statement.action) ∨
      ∃ s', m.step s = .running s' ∧ m.Succeeds s s' statement.action := by
  have hperform {t : State} {turn : Turn}
      (ht : s.world.execute m.settings statement = (t.world, .ok turn)) :
      s.world.perform statement.action = (t.world, .ok turn) :=
    (World.execute_eq_perform (congrArg Prod.snd ht)).symm.trans ht
  have hcarried := carried h
  generalize m.step s = o at hcarried
  cases hcarried with
  | @failed s' cause hexec hline hdepth =>
    exact .inl ⟨s', cause, rfl, fails_of_execute hexec hline hdepth⟩
  | @refused s' target f hexec hindex hline hdepth =>
    -- Computing the number of a line has changed nothing.
    have hworld := World.perform_jump (hperform hexec)
    exact .inl ⟨s', .script f, rfl, congrArg World.store hworld, hline, hdepth,
      .inl (congrArg World.console hworld)⟩
  | @next s' hexec hline hdepth =>
    exact .inr ⟨s', rfl, succeeds_of_perform (hperform hexec) ⟨hline, hdepth⟩⟩
  | @enters s' hexec hline hdepth =>
    exact .inr ⟨s', rfl, succeeds_of_perform (hperform hexec) ⟨hline, hdepth⟩⟩
  | @jumps s' target hexec hindex hdepth =>
    exact .inr ⟨s', rfl, succeeds_of_perform (hperform hexec) ⟨hindex, hdepth⟩⟩

end Machine

/-! ### Whole runs -/

/-- The statements whose execution has been noted, in order. -/
def Journal.statements (j : Journal) : List Statement := j.dispatches.map (·.2.2)

/-- The world after statements have been executed one after the other, whatever their turns. -/
def World.replay (settings : Settings) (w : World) (statements : List Statement) : World :=
  statements.foldl (fun w statement => (w.execute settings statement).1) w

namespace Machine

variable {m : Machine} {s s' start : State} {statement : Statement}

theorem statements_of_statementAt? (h : m.statementAt? s = some statement) :
    (m.step s).state.journal.statements = s.journal.statements ++ [statement] := by
  simp [Journal.statements, dispatches_of_statementAt? h]

theorem Passed.statements {o : Outcome} (h : m.Passed s o) :
    o.state.journal.statements = s.journal.statements := by
  rw [Journal.statements, h.dispatches, Journal.statements]

theorem Carried.world {o : Outcome} (h : m.Carried s statement o) :
    o.state.world = (s.world.execute m.settings statement).1 := by
  cases h with
  | failed hexec _ _ => rw [hexec]; rfl
  | refused hexec _ _ _ => rw [hexec]; rfl
  | next hexec _ _ => rw [hexec]; rfl
  | enters hexec _ _ => rw [hexec]; rfl
  | jumps hexec _ _ => rw [hexec]; rfl

/-- One step notes the statement it executes, if it does, and leaves the world as this statement
does. -/
theorem world_step (m : Machine) (s : State) :
    (m.step s).state.journal.statements =
        s.journal.statements ++ (m.statementAt? s).toList ∧
      (m.step s).state.world = s.world.replay m.settings (m.statementAt? s).toList := by
  cases h : m.statementAt? s with
  | none =>
    have hpassed := passed h
    exact ⟨hpassed.statements.trans (List.append_nil _).symm, hpassed.world⟩
  | some statement => exact ⟨statements_of_statementAt? h, (carried h).world⟩

/-- The world at any point of a run is the one left by the statements executed so far. -/
theorem Reaches.world (h : m.Reaches start s) (hstart : start.journal.statements = []) :
    s.world = start.world.replay m.settings s.journal.statements := by
  induction h with
  | refl => rw [hstart]; rfl
  | @tail t u _ hstep ih =>
    obtain ⟨hstatements, hworld⟩ := m.world_step t
    rw [hstep] at hstatements hworld
    calc u.world
      _ = t.world.replay m.settings (m.statementAt? t).toList := hworld
      _ = start.world.replay m.settings (t.journal.statements ++ (m.statementAt? t).toList) := by
        rw [ih, World.replay, World.replay, World.replay, List.foldl_append]
      _ = start.world.replay m.settings u.journal.statements := by
        rw [← hstatements]
        rfl

/-- A step that fails leaves the variables alone. -/
theorem store_of_failed {cause : Failure} (h : m.step s = .failed s' cause) :
    s'.store = s.store := by
  cases hat : m.statementAt? s with
  | none =>
    have hworld := (passed hat).world
    rw [h] at hworld
    exact congrArg World.store hworld
  | some statement =>
    obtain ⟨t, cause', hstep, hfails⟩ | ⟨t, hstep, -⟩ := fails_or_succeeds hat
    · cases h.symm.trans hstep
      exact hfails.store
    · cases h.symm.trans hstep

/-- **Statements change only what they are about, and failing ones no variable.** In any state, a
step at a line that holds no statement of the current block leaves the variables and the console
alone, and of the cursor it moves one coordinate at most. A step at a statement fails without
changing a variable or the cursor, or succeeds and changes what its action is about. A run that
fails has therefore the variables that the statements before the failing line have left. -/
theorem run_effects (m : Machine) (line depth : Nat) (store : Store) (console : Console) :
    (∀ s, m.statementAt? s = none → m.Passed s (m.step s)) ∧
    (∀ s statement, m.statementAt? s = some statement →
      (∃ s' cause, m.step s = .failed s' cause ∧ Fails s s' statement.action) ∨
        ∃ s', m.step s = .running s' ∧ m.Succeeds s s' statement.action) ∧
    ∀ n s' cause, m.run n { line, depth, store, console } = .failed s' cause →
      ∃ s, m.Reaches { line, depth, store, console } s ∧ m.step s = .failed s' cause ∧
        s'.journal.statements = s.journal.statements ++ (m.statementAt? s).toList ∧
        s'.store = (World.replay m.settings ⟨store, console⟩ s.journal.statements).store := by
  refine ⟨fun s => passed, fun s statement => fails_or_succeeds, fun n s' cause hrun => ?_⟩
  have hhalts : m.Halts { line, depth, store, console } (.failed s' cause) := ⟨nofun, n, hrun⟩
  obtain ⟨s, hreach, hstep⟩ := hhalts.exists_step
  have hstatements := (m.world_step s).1
  rw [hstep] at hstatements
  refine ⟨s, hreach, hstep, hstatements, ?_⟩
  rw [store_of_failed hstep]
  exact congrArg World.store (Reaches.world hreach rfl)

end Machine

end LineScript
