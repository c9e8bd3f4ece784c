import LineScript.Console
import LineScript.Expr.Eval
import LineScript.Journal
import LineScript.Program

/-!
# The machine

A machine executes the lines of a program. Its state is a cursor, made of the line to look at next
and the depth of the current block, together with the store, the console and the journal. One step
looks at one line:

* a blank line is passed over;
* a line that is not indented by spaces in multiples of the indent unit is at fault, and the fault
  can be worded unless the unit is past the digit limit;
* a line less deep than the current block ends the block, and is looked at again;
* a line deeper than the current block is passed over;
* a line as deep as the current block is executed.

A condition that holds moves the current block one unit deeper, so that the lines below it are
executed; one that does not hold leaves the depth alone, so that they are passed over. A jump goes
to a line that is blank or not deeper than the current block.

`Machine.step` is the step and `Machine.run` its iteration. A step that fails leaves the store and
the cursor as they were.
-/

namespace LineScript

/-- How programs are executed: the width of one level of indentation, and the kinds of statement
that are not supported. -/
structure Settings where
  unit : Nat
  unit_pos : 0 < unit
  unsupported : List Kind

namespace Settings

/-- The settings with a given indent unit, which has to be positive. -/
def make (unit : Int) (unsupported : List Kind) : Except Failure Settings :=
  if h : 0 < unit.toNat then .ok ⟨unit.toNat, h, unsupported⟩ else .error .badIndentUnit

/-- Blocks are indented by four spaces, and every kind of statement is supported. -/
def standard : Settings := ⟨4, by decide, []⟩

end Settings

/-- A program to be executed in a certain way. -/
structure Machine where
  program : Program
  settings : Settings

/-- The state of a machine between two steps. -/
structure State where
  /-- The index of the line to look at next. -/
  line : Nat := 0
  /-- The depth of the current block. -/
  depth : Nat := 0
  store : Store := .empty
  console : Console := {}
  journal : Journal := #[]

namespace State

/-- The state after an event has been noted. -/
def note (s : State) (e : Event) : State := { s with journal := s.journal.push e }

/-- The state in which the next line is looked at. -/
def advance (s : State) : State := { s with line := s.line + 1 }

end State

/-- What comes of a step. -/
inductive Outcome where
  | running (s : State)
  | finished (s : State)
  | failed (s : State) (cause : Failure)

namespace Outcome

/-- The state in which a step ends. -/
def state : Outcome → State
  | running s => s
  | finished s => s
  | failed s _ => s

end Outcome

namespace Machine

/-- The indent unit. -/
def unit (m : Machine) : Nat := m.settings.unit

/-! ### Statements -/

/-- What comes of executing a statement: the state it leaves, still at its own line, and the index
of the line it jumps to, if it does, or the reason for which it failed. -/
structure Effect where
  state : State
  result : Except Failure (Option Nat)

namespace Effect

/-- A statement that leaves a state and goes on to the next line. -/
def proceed (s : State) : Effect := ⟨s, .ok none⟩

/-- A statement that fails because of a fault of the script. -/
def fault (s : State) (f : Fault) : Effect := ⟨s, .error (.script f)⟩

end Effect

/-- Reads an integer into a variable. -/
def execInput (s : State) (target : Text) : Effect :=
  match Variable.resolve target with
  | .error f => .fault s f
  | .ok v =>
    let reading := s.console.readInteger target
    let s' := { s with
      console := reading.console
      journal := reading.rejected.foldl (fun j n => j.push (.rejected n)) s.journal }
    match reading.result with
    | .ok value => .proceed { s' with store := s'.store.set v value }
    | .error cause => ⟨s', .error cause⟩

/-- Sets a variable to the value of an expression. -/
def execAssignment (s : State) (target expression : Text) : Effect :=
  match Variable.resolve target with
  | .error f => .fault s f
  | .ok v =>
    match evalArithmetic s.store expression with
    | .error f => .fault s f
    | .ok value => .proceed { s with store := s.store.set v value.toInt }

/-- Writes the value of an expression. -/
def execOutput (s : State) (expression : Text) : Effect :=
  match evalArithmetic s.store expression >>= fun value => formatInt value.toInt with
  | .error f => .fault s f
  | .ok text =>
    if s.console.closed then ⟨s, .error .consoleClosed⟩
    else .proceed { s with console := s.console.write (Text.toString text) }

/-- Enters the block below a condition if it holds. -/
def execBranch (m : Machine) (s : State) (condition : Text) : Effect :=
  match evalCondition s.store condition with
  | .error f => .fault s f
  | .ok true => .proceed ({ s with depth := s.depth + m.unit }.note (.entered (s.depth + m.unit)))
  | .ok false => .proceed s

/-- The index of the line a jump goes to, for a target counted from one. -/
def jumpIndex (m : Machine) (depth : Nat) (target : Int) : Except Fault Nat :=
  match if target < 1 then none else m.program.line? (target.toNat - 1) with
  | none => .error (.jumpOutside target m.program.size)
  | some line =>
    if Text.allBlank line = false ∧ depth < depthOf line then
      .error (.jumpIntoBlock target.toNat)
    else .ok (target.toNat - 1)

/-- Jumps to the line whose number is the value of an expression. -/
def execJump (m : Machine) (s : State) (expression : Text) : Effect :=
  match evalArithmetic s.store expression >>= fun value => m.jumpIndex s.depth value.toInt with
  | .error f => .fault s f
  | .ok index => ⟨s.note (.jumped (index + 1)), .ok (some index)⟩

/-- Carries out an action. -/
def execAction (m : Machine) (s : State) : Action → Effect
  | .input target => execInput s target
  | .assignment target expression => execAssignment s target expression
  | .output expression => execOutput s expression
  | .branch condition => m.execBranch s condition
  | .jump expression => m.execJump s expression

/-- Executes a statement that stands at the cursor. -/
def execStatement (m : Machine) (s : State) (statement : Statement) : Effect :=
  let s := s.note (.dispatched (s.line + 1) s.depth statement)
  if statement.kind ∈ m.settings.unsupported then ⟨s, .error (.unsupported statement.kind)⟩
  else m.execAction s statement.action

/-! ### Lines -/

/-- Executes a line, given without its indentation, and moves the cursor on. -/
def dispatch (m : Machine) (s : State) (text : Text) : Outcome :=
  match Statement.parse text with
  | .error f => .failed s (.script f)
  | .ok statement =>
    let effect := m.execStatement s statement
    match effect.result with
    | .error cause => .failed effect.state cause
    | .ok target =>
      let s := effect.state.note (.completed effect.state.depth (target.map (· + 1)))
      .running { s with line := target.getD (s.line + 1) }

/-- Looks at a line that is not blank. -/
def visit (m : Machine) (s : State) (line : Text) : Outcome :=
  let depth := depthOf line
  if (line.drop depth).head?.any Text.isBlank then .failed s (.script .blankAfterIndent)
  else if depth % m.unit ≠ 0 then
    .failed s (.showing (.unevenDepth depth) (Numeral.decimal? m.unit))
  else if depth < s.depth then .running ({ s with depth }.note (.left s.depth depth))
  else if s.depth < depth then .running s.advance
  else m.dispatch s (line.drop depth)

/-- One step: looks at the line at the cursor, if there is one. -/
def step (m : Machine) (s : State) : Outcome :=
  match m.program.line? s.line with
  | none => .finished s
  | some line => if Text.allBlank line then .running s.advance else m.visit s line

/-- At most `n` steps; the outcome is `running` when the machine has not stopped by then. -/
def run (m : Machine) : Nat → State → Outcome
  | 0, s => .running s
  | n + 1, s =>
    match m.step s with
    | .running s' => m.run n s'
    | outcome => outcome

end Machine

end LineScript
