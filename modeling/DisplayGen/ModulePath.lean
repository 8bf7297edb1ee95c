import DisplayGen.Text.Split

/-!
# Modules and files

A module path is the list of names below the crate. The file of a module has its path; `mod.rs`
stands for its directory, and `lib.rs` and `main.rs` at the top for the crate itself.
-/

namespace DisplayGen

/-- A component of a file path. -/
inductive PathPart where
  | root
  | current
  | parent
  | name (n : String)
  deriving DecidableEq, Repr, Inhabited

/-- The pieces of a text between slashes. There is always at least one. -/
def splitSlashes : List Char → List (List Char)
  | [] => [[]]
  | '/' :: r => [] :: splitSlashes r
  | c :: r => Text.consFirst c (splitSlashes r)

/-- What a piece of a file path after the first one stands for. Empty pieces and points stand for
nothing. -/
def laterPart? (piece : List Char) : Option PathPart :=
  match piece with
  | [] => none
  | ['.'] => none
  | ['.', '.'] => some .parent
  | cs => some (.name (String.ofList cs))

/-- What the first piece of a file path stands for. -/
def firstPart? (alone : Bool) (piece : List Char) : Option PathPart :=
  match piece with
  | [] => if alone then none else some .root
  | ['.'] => some .current
  | cs => laterPart? cs

/-- The components of a file path. -/
def pathParts (path : String) : List PathPart :=
  match splitSlashes path.toList with
  | [] => []
  | first :: rest => (firstPart? rest.isEmpty first).toList ++ rest.filterMap laterPart?

/-- The names among the components of a file path. -/
def pathNames (path : String) : List String :=
  (pathParts path).filterMap fun
    | .name n => some n
    | _ => none

/-- A file name without the extension of source files. -/
def fileStem (name : String) : String :=
  match name.toList.reverse with
  | 's' :: 'r' :: '.' :: r => String.ofList r.reverse
  | _ => name

/-- The module path of a source file, from its path below the directory of the sources. -/
def moduleOfFile (path : String) : List String :=
  let names := pathNames path
  match names.getLast? with
  | none => []
  | some last =>
    let stem := fileStem last
    let before := names.dropLast
    let isCrate := before.isEmpty && (stem == "lib" || stem == "main")
    if isCrate || stem == "mod" then before else before ++ [stem]

/-- A module path with the name of the crate in front. -/
def qualifiedModule (crateName : String) (module : List String) : String :=
  Text.joinPath (crateName :: module)

/-- The name of a package as it stands in paths. -/
def crateIdent (package : String) : String := Text.replaceChar '-' '_' package

end DisplayGen
