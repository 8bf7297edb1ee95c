import DisplayGen.Crate

/-!
# Candidates

The candidates of a crate are the structs that carry an attribute, wherever they stand: in modules,
in bodies of functions, in constants. Nothing is resolved here, so any attribute makes a candidate.
They come in source order, a struct before what is nested in it.
-/

namespace DisplayGen

open Source

/-- A struct that carries an attribute, with the place where it stands: its unit, its module, and
whether a block encloses it. -/
structure Candidate where
  unit : String
  module : List String
  head : StructHead
  inBlock : Bool
  deriving DecidableEq, Repr, Inhabited

/-- The item is a struct that carries an attribute. -/
def isTarget : Tree → Bool
  | .node (.struct head) _ => !head.attributes.isEmpty
  | _ => false

namespace Source.Tree

mutual

/-- The candidates in a tree that stands in a module, perhaps in a block. A module in a file of its
own has no content here. -/
def candidates (unit : String) (module : List String) (inBlock : Bool) : Tree → List Candidate
  | .leaf _ => []
  | .node (.struct head) children =>
    (if head.attributes.isEmpty then [] else [⟨unit, module, head, inBlock⟩]) ++
      candidatesOfAll unit module inBlock children
  | .node (.module i inline) children =>
    if inline then candidatesOfAll unit (module ++ [i.name]) inBlock children else []
  | .node .block children => candidatesOfAll unit module true children
  | .node _ children => candidatesOfAll unit module inBlock children

/-- The candidates in several trees. -/
def candidatesOfAll (unit : String) (module : List String) (inBlock : Bool) :
    List Tree → List Candidate
  | [] => []
  | t :: ts => candidates unit module inBlock t ++ candidatesOfAll unit module inBlock ts

end

end Source.Tree

/-- The candidates of a source unit. -/
def SourceUnit.candidates (u : SourceUnit) : List Candidate :=
  Source.Tree.candidatesOfAll u.name u.module false (u.file.attributes ++ u.file.items)

/-- The candidates of a crate. -/
def Crate.candidates (c : Crate) : List Candidate := c.units.flatMap SourceUnit.candidates

end DisplayGen
