import DisplayGen.Disk.Path

/-!
# Changes of sources

While a project is watched, the events of the file system that touch a source file start a new pass.
-/

namespace DisplayGen

/-- What has happened to files. -/
inductive ChangeKind where
  | any
  | access
  | create
  | modify
  | remove
  | other
  deriving DecidableEq, Repr, Inhabited

/-- Something that has happened to files. -/
structure FileChange where
  kind : ChangeKind
  paths : List String
  deriving DecidableEq, Repr, Inhabited

/-- The kind says that a file is there, gone, or not the same any more. -/
def ChangeKind.isChange : ChangeKind → Bool
  | create | modify | remove => true
  | any | access | other => false

/-- The last component of a path is the name of a source file. -/
def isSourcePath (path : String) : Bool :=
  match (pathParts path).getLast? with
  | some (.name n) => isSourceName n
  | _ => false

/-- A source file has changed. -/
def FileChange.isSourceChange (e : FileChange) : Bool :=
  e.kind.isChange && e.paths.any isSourcePath

end DisplayGen
