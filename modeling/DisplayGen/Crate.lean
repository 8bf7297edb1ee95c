import DisplayGen.Error
import DisplayGen.Source.File
import DisplayGen.Resolution.Scope

/-!
# The sources of a crate

A crate under generation is a name and the source units that were added to it, in order. The names
of units are distinct: `Crate.add` refuses a name that is taken. Generated artifacts are added like
sources. `Crate.scope` holds what the units declare.
-/

namespace DisplayGen

/-- A source file of a crate, with the module whose items it holds. -/
structure SourceUnit where
  name : String
  module : List String
  file : Source.File
  deriving Inhabited

/-- A generated text, with the name of its file and the module that it belongs to. -/
structure Artifact where
  name : String
  module : List String
  text : String
  deriving DecidableEq, Repr, Inhabited

/-- The sources of a crate. -/
structure Crate where
  name : String
  units : List SourceUnit
  deriving Inhabited

namespace Crate

/-- A crate without sources. -/
def create (name : String) : Except GenerationError Crate :=
  if name.isEmpty then .error .emptyCrateName else .ok ⟨name, []⟩

/-- The crate has a unit of the given name. -/
def contains (c : Crate) (unit : String) : Bool := c.units.any fun u => u.name == unit

/-- The crate with one more source unit. -/
def add (c : Crate) (name : String) (module : List String) (text : String) :
    Except GenerationError Crate :=
  if c.contains name then .error (.nameCollision name)
  else
    match Source.File.read? text with
    | some file => .ok { c with units := c.units ++ [⟨name, module, file⟩] }
    | none => .error (.unparsable name)

/-- The crate with an artifact added to its sources. -/
def addArtifact (c : Crate) (a : Artifact) : Except GenerationError Crate :=
  c.add a.name a.module a.text

/-- What a unit declares: its module and those that enclose it, and what its items declare. -/
def declarationsOfUnit (u : SourceUnit) : List Declaration :=
  (List.range u.module.length).map (fun n => .item (u.module.take (n + 1))) ++
    Source.Tree.declarationsOfAll u.module u.file.items

/-- What the units of a crate declare. -/
def declarations (c : Crate) : List Declaration := c.units.flatMap declarationsOfUnit

/-- The scope that declarations make. -/
def scopeOf (crateName : String) (declarations : List Declaration) : Scope where
  crateName
  items := declarations.filterMap fun
    | .item path => some path
    | .struct path _ => some path
    | .brought _ _ => none
  structs := declarations.filterMap fun
    | .struct path head => some (path, head)
    | _ => none
  imports := declarations.filterMap fun
    | .brought module content => some (module, content)
    | _ => none

/-- The scope of a crate. -/
def scope (c : Crate) : Scope := scopeOf c.name c.declarations

end Crate

end DisplayGen
