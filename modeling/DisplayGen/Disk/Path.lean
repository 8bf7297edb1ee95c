import DisplayGen.ModulePath

/-!
# Paths on disk

Paths are texts, as they are shown in messages. `joinPaths` puts a relative path behind another one,
and `below?` takes the part of a path below a directory apart.
-/

namespace DisplayGen

/-- A path relative to another one; an absolute path stands for itself. -/
def joinPaths (dir path : String) : String :=
  if path.startsWith "/" || dir.isEmpty then path
  else if dir.endsWith "/" then dir ++ path
  else dir ++ "/" ++ path

/-- The parts of a path below a directory. A stroke at the end counts as a part that stays where it
is. -/
def below? (dir path : String) : Option (List PathPart) :=
  match Text.afterStart? dir.toList path.toList with
  | none => none
  | some [] => some []
  | some ('/' :: r) =>
    let part? (piece : List Char) : Option PathPart :=
      match piece with
      | ['.'] => some .current
      | cs => laterPart? cs
    some ((splitSlashes r).filterMap part? ++ if r.getLast? = some '/' then [.current] else [])
  | some _ => none

/-- The name is that of a source file. -/
def isSourceName (name : String) : Bool := name != ".rs" && name.endsWith ".rs"

end DisplayGen
