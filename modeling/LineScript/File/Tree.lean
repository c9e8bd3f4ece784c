import LineScript.File.Path

/-!
# File trees

A file tree is what the current directory holds: files with their bytes, and directories, which
also are there when something below them is. A path is followed name by name; going on from
something that is not a directory leads nowhere, and `..` leads to the directory above. Above the
current directory, and at the root, there are directories of which nothing is known.
-/

namespace LineScript

/-- What a path leads to. -/
inductive Node where
  | missing
  | directory
  | file (bytes : List UInt8)
  deriving DecidableEq

/-- The contents of the current directory: for each listed path, the bytes of a file, or `none` for
a directory. -/
structure FileTree where
  entries : List (List Text × Option (List UInt8))

/-- A place reached while following a path. -/
inductive Place where
  /-- Names from the current directory on. -/
  | inside (parts : List Text)
  /-- A directory that is not below the current one. -/
  | outside

namespace FileTree

/-- What stands at a list of names below the current directory. -/
def nodeAt (tree : FileTree) (parts : List Text) : Node :=
  match tree.entries.find? fun entry => entry.1 == parts with
  | some (_, some bytes) => .file bytes
  | some (_, none) => .directory
  | none =>
    if parts.isEmpty || tree.entries.any fun entry => parts.isPrefixOf entry.1 then .directory
    else .missing

/-- What a list of names leads to from a place. -/
def follow (tree : FileTree) : Place → List Text → Node
  | .inside parts, [] => tree.nodeAt parts
  | .outside, [] => .directory
  | .outside, part :: rest => if part = ['.', '.'] then tree.follow .outside rest else .missing
  | .inside parts, part :: rest =>
    match tree.nodeAt parts with
    | .directory =>
      if part = ['.', '.'] then
        if parts.isEmpty then tree.follow .outside rest
        else tree.follow (.inside parts.dropLast) rest
      else tree.follow (.inside (parts ++ [part])) rest
    | _ => .missing

/-- What a path leads to. -/
def find (tree : FileTree) (path : Path) : Node :=
  match path.anchor with
  | .relative => tree.follow (.inside []) path.parts
  | _ => tree.follow .outside path.parts

end FileTree

end LineScript
