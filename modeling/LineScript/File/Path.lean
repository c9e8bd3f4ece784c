import LineScript.Text.Lines

/-!
# Paths

A path is relative or starts at the root, and is a list of names. Empty names and the name `.` are
dropped when a path is read, the name `..` is kept. Exactly two slashes at the start are a root of
their own; any other number of them is the plain root.
-/

namespace LineScript

/-- Where a path starts. -/
inductive Anchor where
  | relative | root | doubleRoot
  deriving DecidableEq

/-- A path. -/
structure Path where
  anchor : Anchor
  parts : List Text
  deriving DecidableEq

namespace Path

/-- The pieces of a text between slashes. -/
def splitSlashes : Text → List Text
  | [] => [[]]
  | '/' :: rest => [] :: splitSlashes rest
  | c :: rest => Text.consHead c (splitSlashes rest)

/-- The anchor of a path that starts with a number of slashes. -/
def anchorOf : Nat → Anchor
  | 0 => .relative
  | 2 => .doubleRoot
  | _ => .root

/-- Reads a path. -/
def ofText (t : Text) : Path where
  anchor := anchorOf (t.takeWhile (· == '/')).length
  parts := (splitSlashes t).filter fun part => !part.isEmpty && part != ['.']

/-- The text of a path's anchor. -/
def anchorText : Anchor → Text
  | .relative => []
  | .root => ['/']
  | .doubleRoot => ['/', '/']

/-- The text of a path; the empty path is written as a dot. -/
def text (p : Path) : Text :=
  match anchorText p.anchor ++ ['/'].intercalate p.parts with
  | [] => ['.']
  | t => t

end Path

end LineScript
