import DisplayGen.Crate
import DisplayGen.Disk.Basic
import DisplayGen.ModulePath

/-!
# Crates on disk

The sources of a crate are the source files below a directory, in the order of their places. Each is
a unit, named by its path from that directory, and stands for the module that this path gives.
-/

namespace DisplayGen

/-- The places of the source files below a place, in order. -/
def Disk.sourcesBelow (d : Disk) (place : List String) : List (List String) :=
  (d.filesBelow place).filter fun p => p.getLast?.any isSourceName

/-- The name of the unit that a source file makes, from its place below the directory of the
sources. -/
def unitName (file : List String) : String := Text.replaceChar '\\' '/' (Disk.shown file)

namespace Crate

/-- Adds the source file at a place. The file's place below the directory of the sources is given
apart. -/
def addFile (c : Crate) (d : Disk) (dir : String) (place file : List String) :
    Except GenerationError Crate :=
  match d.textAt place with
  | .error e => .error (.unreadable (file.foldl joinPaths dir) e)
  | .ok text => c.add (unitName file) (moduleOfFile (Disk.shown file)) text

/-- The crate with the given name and the source files below a directory. -/
def load (d : Disk) (name dir : String) : Except GenerationError Crate := do
  let c ← create name
  match d.locate dir with
  | .error e => throw (.unreadable dir e)
  | .ok start =>
    match d.node? start with
    | none => throw (.unreadable dir .notFound)
    | some _ => (d.sourcesBelow start).foldlM (fun c p => c.addFile d dir p (p.drop start.length)) c

end Crate

end DisplayGen
