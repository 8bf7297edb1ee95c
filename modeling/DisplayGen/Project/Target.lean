import DisplayGen.Disk.Basic
import DisplayGen.Format.Toml

/-!
# What a package builds

A package builds a library and any number of further targets: programs, tests, examples and
benchmarks. Each is named in the package's description, or found by where its source file stands.

* `Target.isNamed`: the targets that a description names have their source files.
* `Target.isFound`: a source file stands where targets are looked for.
-/

namespace DisplayGen

open Format

namespace Disk

/-- A file stands at a place. -/
def isFileAt (d : Disk) (place : List String) : Bool := (d.contentAt place).isOk

/-- What stands in a directory. -/
def childrenOf (d : Disk) (place : List String) : List (String × DiskNode) :=
  d.nodes.filterMap fun (p, n) =>
    match p.getLast? with
    | some name => if p.dropLast = place then some (name, n) else none
    | none => none

end Disk

/-- A kind of targets besides the library. -/
structure Target where
  /-- The key under which a description names them. -/
  key : String
  /-- The directory in which they are looked for. -/
  directory : List String
  /-- The key that says whether they are looked for at all. -/
  lookKey : String
  deriving DecidableEq, Repr, Inhabited

namespace Target

/-- Programs. -/
def program : Target := ⟨"bin", ["src", "bin"], "autobins"⟩

/-- Tests. -/
def test : Target := ⟨"test", ["tests"], "autotests"⟩

/-- Examples of use. -/
def demonstration : Target := ⟨"example", ["examples"], "autoexamples"⟩

/-- Benchmarks. -/
def benchmark : Target := ⟨"bench", ["benches"], "autobenches"⟩

/-- All kinds of targets besides the library. -/
def all : List Target := [program, test, demonstration, benchmark]

/-- The file of the only source of a program. -/
def mainFile : String := "main.rs"

/-- The file of a library. -/
def libraryFile : List String := ["src", "lib.rs"]

/-- The place of a program that has the name of its package. -/
def ownFile : List String := ["src", mainFile]

/-- The entries of a description under the key of a kind. -/
def entries (k : Target) (t : TomlTable) : List TomlTable :=
  match t.get? k.key with
  | some (.tables elements) => elements
  | some (.array items) => items.filterMap fun
    | .inline _ es => some es
    | _ => none
  | _ => []

/-- A target that a description names has a place for its source: the one that is given, or one that
goes by its name. -/
def hasSource (k : Target) (d : Disk) (place : List String) (package : String) (entry : TomlTable) :
    Bool :=
  match (entry.get? "name").bind TomlItem.text? with
  | none => false
  | some name =>
    (entry.get? "path").isSome ||
      d.isFileAt (place ++ k.directory ++ [name ++ ".rs"]) ||
      d.isFileAt (place ++ k.directory ++ [name, mainFile]) ||
      (k == program && name == package && d.isFileAt (place ++ ownFile))

/-- All targets of the kind that a description names have a place for their source. -/
def isNamed (k : Target) (d : Disk) (place : List String) (package : String) (t : TomlTable) : Bool :=
  (k.entries t).all (k.hasSource d place package)

/-- Something in a directory is the source of a target: a file, or a directory with a main file. -/
def isSource (d : Disk) (directory : List String) (name : String) : DiskNode → Bool
  | .file _ _ => name.endsWith ".rs" && !name.startsWith "."
  | .directory => !name.startsWith "." && d.isFileAt (directory ++ [name, mainFile])

/-- The description forbids to look for targets of the kind. -/
def isForbidden (k : Target) (package : TomlTable) : Bool :=
  match package.get? k.lookKey with
  | some (.truth b) => !b
  | _ => false

/-- A target of the kind is found by where its source stands, if that is not forbidden. -/
def isFound (k : Target) (d : Disk) (place : List String) (package : TomlTable) : Bool :=
  !k.isForbidden package &&
    ((d.childrenOf (place ++ k.directory)).any (fun (name, n) => isSource d (place ++ k.directory) name n) ||
      (k == program && d.isFileAt (place ++ ownFile)))

/-- The library of a package, if there is one; it is refused if it is named and has no source. -/
def library? (d : Disk) (place : List String) (t : TomlTable) : Option Bool :=
  let found := d.isFileAt (place ++ libraryFile)
  match t.get? "lib" with
  | none => some found
  | some l => if found || (l.get? "path").isSome then some true else none

/-- The package at a place builds something, and all that its description names has its source. -/
def isAnyBuilt (d : Disk) (place : List String) (name : String) (t : TomlTable) (package : TomlTable) :
    Bool :=
  match library? d place t with
  | none => false
  | some hasLibrary =>
    all.all (fun k => k.isNamed d place name t) &&
      (hasLibrary || all.any fun k => !(k.entries t).isEmpty || k.isFound d place package)

end Target

end DisplayGen
