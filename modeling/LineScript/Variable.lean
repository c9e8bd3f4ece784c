import LineScript.Failure
import LineScript.Text.Letter

/-!
# Variables

There are 52 variables, named by the ASCII letters: `a` to `z`, then `A` to `Z`. A variable is its
place in that order.

The names in a script are texts. A caller can give anything for a name (`VarName`), and what is no
text is refused as well; but as the message shows what was given, an integer that is too long to be
written makes the message fail.
-/

namespace LineScript

/-- A variable, as its place among the letters `a` to `z`, `A` to `Z`. -/
abbrev Variable := Fin 52

namespace Variable

/-- The letter that names a variable. -/
def letter (v : Variable) : Char :=
  if v.val < 26 then Char.ofNat (0x61 + v.val) else Char.ofNat (0x41 + (v.val - 26))

/-- The variable named by a letter. -/
def ofChar? (c : Char) : Option Variable :=
  if h : 0x61 ≤ c.toNat ∧ c.toNat ≤ 0x7A then some ⟨c.toNat - 0x61, by omega⟩
  else if h : 0x41 ≤ c.toNat ∧ c.toNat ≤ 0x5A then some ⟨c.toNat - 0x41 + 26, by omega⟩
  else none

/-- Every variable, in order. -/
def all : List Variable := List.finRange 52

/-- The variable named by a text; a name is exactly one ASCII letter. -/
def ofText? : Text → Option Variable
  | [c] => ofChar? c
  | _ => none

/-- The variable that a text has to name. -/
def resolve (t : Text) : Except Fault Variable :=
  match ofText? t with
  | some v => .ok v
  | none => .error (.invalidName (Text.quoted t))

end Variable

/-- What is given as the name of a variable. -/
inductive VarName where
  | text (t : Text)
  | integer (n : Int)
  /-- Something else, with the way it is shown, unless it holds an integer too long for that. -/
  | other (shown : Option Text)
  deriving DecidableEq

namespace VarName

/-- How a given name is shown in a message, if it can be. -/
def shown? : VarName → Option Text
  | text t => some (Text.quoted t)
  | integer n => Numeral.decimal? n
  | other shown => shown

/-- The failure with which a name that no variable has is refused. -/
def refusal (name : VarName) : Failure := .showing .invalidName name.shown?

/-- The variable with the given name. -/
def resolve : VarName → Except Failure Variable
  | text t => (Variable.resolve t).mapError .script
  | name => .error name.refusal

end VarName

end LineScript
