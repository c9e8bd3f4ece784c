import LineScript.Store

/-!
# Requests to a store

The operations of a store as requests with replies, so that a list of them can be answered one
after the other. A request with a name that is not one ASCII letter fails and changes nothing.
-/

namespace LineScript.Store

/-- Something to ask of a store. -/
inductive Request where
  | set (name : VarName) (value : Int)
  | get (name : VarName)
  | isDefined (name : VarName)
  | validate (name : VarName)
  | bindings
  | clear
  | describe

/-- The reply to a request. -/
inductive Reply where
  | done
  | value (v : Int)
  | truth (b : Bool)
  /-- The name that was given, which is that of this variable. -/
  | name (v : Variable)
  | bindings (bs : List (Variable × Int))
  | text (t : Text)

/-- One binding as a description shows it. -/
def describeBinding (b : Variable × Int) : Option Text :=
  (Numeral.decimal? b.2).map fun value => Text.quoted [b.1.letter] ++ ':' :: ' ' :: value

/-- The description of a store: its bindings in order. -/
def describe (s : Store) : Except Failure Text :=
  match s.bindings.mapM describeBinding with
  | some shown =>
    .ok (Text.ofString "<VariableStore \x7b" ++ [',', ' '].intercalate shown ++
      Text.ofString "\x7d>")
  | none => .error .digitLimit

/-- Answers a request about the variable with a given name. -/
def onVariable (name : VarName) (s : Store) (answer : Variable → Store × Except Failure Reply) :
    Store × Except Failure Reply :=
  match name.resolve with
  | .ok v => answer v
  | .error cause => (s, .error cause)

/-- Answers a request. -/
def answer (s : Store) : Request → Store × Except Failure Reply
  | .set name value => onVariable name s fun v => (s.set v value, .ok (.value value))
  | .get name => onVariable name s fun v => (s, ((s.get v).mapError .script).map .value)
  | .isDefined name => onVariable name s fun v => (s, .ok (.truth (s.get? v).isSome))
  | .validate name => onVariable name s fun v => (s, .ok (.name v))
  | .bindings => (s, .ok (.bindings s.bindings))
  | .clear => (.empty, .ok .done)
  | .describe => (s, s.describe.map .text)

/-- Answers requests one after the other. -/
def answerAll (s : Store) : List Request → Store × List (Except Failure Reply)
  | [] => (s, [])
  | request :: requests =>
    let (s, reply) := s.answer request
    let (s, replies) := s.answerAll requests
    (s, reply :: replies)

end LineScript.Store
