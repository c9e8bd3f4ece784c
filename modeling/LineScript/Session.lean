import LineScript.Interpreter
import LineScript.Store.Request

/-!
# Sessions

A session is a console and a store shared by a sequence of commands: runs of programs, operations on
the console and on the store, and evaluations of expressions. Each command gets a reply, together
with the lines it wrote.
-/

namespace LineScript

/-- A session between two commands. -/
structure Session where
  settings : Settings
  console : Console
  store : Store

/-- A command of a session. -/
inductive Command where
  /-- Runs a program with the store of the session. -/
  | run (source : Source)
  /-- Runs a program with a store of its own. -/
  | runFresh (source : Source)
  | emit (line : String)
  | enter
  | close
  | read (name : Text)
  | report (e : ErrorReport)
  | store (request : Store.Request)
  | evaluate (expression : Text)
  | decide (condition : Text)

/-- The reply to a command. -/
inductive Reply where
  | done
  | verdict (v : Verdict)
  /-- The verdict on a run with a store of its own, and that store at its end. -/
  | freshVerdict (v : Verdict) (store : Store)
  | value (v : Value)
  | store (reply : Store.Reply)

namespace Session

/-- The reply to a run, which is a failure when the run could not be carried out. -/
def replyTo (v : Verdict) (reply : Reply) : Except Failure Reply :=
  match v with
  | .refused cause => .error cause
  | _ => .ok reply

/-- The session after an operation on its console that may fail. -/
def onConsole (s : Session) : Except Failure Console → Session × Except Failure Reply
  | .ok console => ({ s with console }, .ok .done)
  | .error cause => (s, .error cause)

/-- Carries out a command, with at most `limit` steps for a run. -/
def perform (limit : Nat) (s : Session) : Command → Session × Except Failure Reply
  | .run source =>
    let r := interpret s.settings limit Program.defaultName source s.store s.console
    ({ s with store := r.store, console := r.console }, replyTo r.verdict (.verdict r.verdict))
  | .runFresh source =>
    let r := interpret s.settings limit Program.defaultName source .empty s.console
    ({ s with console := r.console }, replyTo r.verdict (.freshVerdict r.verdict r.store))
  | .emit line => s.onConsole (s.console.emit line)
  | .enter => ({ s with console := s.console.enter }, .ok .done)
  | .close => ({ s with console := s.console.close }, .ok .done)
  | .read name =>
    let reading := s.console.readInteger name
    ({ s with console := reading.console }, reading.result.map fun n => .value (.int n))
  | .report e => s.onConsole (s.console.report e)
  | .store request =>
    let (store, reply) := s.store.answer request
    ({ s with store }, reply.map .store)
  | .evaluate expression =>
    (s, ((evalArithmetic s.store expression).mapError .script).map .value)
  | .decide condition =>
    (s, ((evalCondition s.store condition).mapError .script).map fun b => .value (.truth b))

/-- What a command comes to: its reply, the text it wrote, and the session after it. -/
structure Record where
  reply : Except Failure Reply
  output : String
  after : Session

/-- Carries out commands one after the other. -/
def performAll (limit : Nat) (s : Session) : List Command → List Record
  | [] => []
  | command :: commands =>
    let (after, reply) := s.perform limit command
    let output := joinLines (after.console.written.extract s.console.written.size)
    ⟨reply, output, after⟩ :: after.performAll limit commands

end Session

end LineScript
