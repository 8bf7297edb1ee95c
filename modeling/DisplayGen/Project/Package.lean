import DisplayGen.Disk.Basic
import DisplayGen.Failure
import DisplayGen.Format.Version
import DisplayGen.ModulePath
import DisplayGen.Project.Target

/-!
# Packages

A package is described by a TOML file in its directory. The file gives the package's name, which
becomes the name of its crate. It may also make the directory the root of a workspace with other
packages as members.
-/

namespace DisplayGen

open Format

namespace Package

/-- The name of the file that describes a package. -/
def fileName : String := "Cargo.toml"

/-- The name of a package. -/
def name? (t : TomlTable) : Option String := do
  (← (← t.get? "package").get? "name").text?

/-- The name of the crate of the package that a file describes. -/
def readCrateName (d : Disk) (path : String) : Except Failure String := do
  let text ← withContext s!"Failed to read {path}" (ofFile (d.readText path))
  match TomlTable.readWithTimes? text with
  | none => throw ⟨[s!"Failed to parse {path}"], .packageText⟩
  | some t =>
    match name? t with
    | some name => return crateIdent name
    | none => throw (.ofCause (.plain s!"{path} has no [package] name"))

/-! ## Workspaces -/

/-- The members of the workspace whose root a file describes, if it describes one. -/
def members? (t : TomlTable) : Option (List String) := do
  let workspace ← t.get? "workspace"
  return ((workspace.get? "members").elim [] TomlItem.items).filterMap TomlItem.text?

/-- A name that packages may have. -/
def isValidName (name : String) : Bool :=
  match name.toList with
  | [] => false
  | c :: cs => Text.isIdentStart c && cs.all fun c => Text.isIdentContinue c || c == '-'

/-- The editions of the language that packages may be written in. -/
def editions : List String := ["2015", "2018", "2021", "2024"]

/-- A field of a package is absent, or a text that passes the test, or taken from a workspace that
has it for all its packages. -/
def isValidField (root package : TomlTable) (key : String) (p : String → Bool) : Bool :=
  match package.get? key with
  | none => true
  | some (.text s) => p s
  | some v =>
    match v.get? "workspace" with
    | some (.truth true) =>
      ((((root.get? "workspace").bind (·.get? "package")).bind (·.get? key)).bind TomlItem.text?).any p
    | _ => false

/-- The description of the package at a place. -/
def tableAt? (d : Disk) (place : List String) : Option TomlTable :=
  match d.textAt (place ++ [fileName]) with
  | .ok text => TomlTable.read? text
  | .error _ => none

/-- The package at a place can be built: its name, version and edition are valid, and it has
something to build. `root` describes its workspace. -/
def isBuildable (d : Disk) (root : TomlTable) (place : List String) : Bool :=
  match tableAt? d place with
  | none => false
  | some t =>
    match t.get? "package", name? t with
    | some (.table _ package), some name | some (.inline _ package), some name =>
      isValidName name && isValidField root package "edition" editions.contains &&
        isValidField root package "version" Format.isVersion && Target.isAnyBuilt d place name t package
    | _, _ => false

/-- The places that a place lies in, the nearest first. -/
def placesAbove (place : List String) : List (List String) :=
  (List.range place.length).reverse.map place.take

/-- The nearest of the places that is the root of a workspace, with its description. -/
def workspaceAmong? (d : Disk) : List (List String) → Option (List String × TomlTable)
  | [] => none
  | p :: ps =>
    match d.node? (p ++ [fileName]) with
    | none => workspaceAmong? d ps
    | some _ =>
      match tableAt? d p with
      | none => none
      | some t => if (members? t).isSome then some (p, t) else workspaceAmong? d ps

/-- The root of the workspace that the package at a place is a member of. -/
def workspaceRoot? (d : Disk) (place : List String) : Option (List String) :=
  if ((tableAt? d place).bind members?).isNone then
    match workspaceAmong? d (placesAbove place) with
    | some (root, t) =>
      if ((members? t).getD []).contains (Disk.shown (place.drop root.length)) &&
          isBuildable d t place then some root
      else none
    | none => none
  else none

end Package

end DisplayGen
