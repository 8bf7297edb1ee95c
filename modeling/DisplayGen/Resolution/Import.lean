import DisplayGen.Source.WrittenPath

/-!
# Imports

A `use` declaration brings names into its module, one import for each leaf of its tree
(`UseTree.imports`).
-/

namespace DisplayGen

open Source

/-- What one leaf of a `use` declaration brings into its module. -/
inductive Import where
  /-- A name for what the target names. -/
  | named (bound : String) (target : WrittenPath)
  /-- All names of the module that the base names. -/
  | glob (base : WrittenPath)
  deriving DecidableEq, Repr, Inhabited

namespace Source.UseTree

/-- The import of a plain name behind the segments `before`. The word `self` stands for the last of
them, and imports nothing if there is none. -/
def nameImport (leadingColon : Bool) (before : List String) (name : String) : List Import :=
  if name = "self" then
    match before.getLast? with
    | some bound => [.named bound ⟨leadingColon, before⟩]
    | none => []
  else [.named name ⟨leadingColon, before ++ [name]⟩]

/-- The import of a name under another one. The alias `_` brings nothing into the module, and the
word `self` stands for the segments before it. -/
def renameImport (leadingColon : Bool) (before : List String) (name bound : String) : List Import :=
  if bound = "_" then []
  else if name = "self" then [.named bound ⟨leadingColon, before⟩]
  else [.named bound ⟨leadingColon, before ++ [name]⟩]

mutual

/-- The imports of a tree behind the segments `before`, in source order. -/
def imports (leadingColon : Bool) (before : List String) : UseTree → List Import
  | .path i t => imports leadingColon (before ++ [i.name]) t
  | .name i => nameImport leadingColon before i.name
  | .rename i bound => renameImport leadingColon before i.name bound.name
  | .glob => [.glob ⟨leadingColon, before⟩]
  | .group ts => importsOfAll leadingColon before ts

/-- The imports of several trees behind the same segments. -/
def importsOfAll (leadingColon : Bool) (before : List String) : List UseTree → List Import
  | [] => []
  | t :: ts => imports leadingColon before t ++ importsOfAll leadingColon before ts

end

end Source.UseTree

end DisplayGen
