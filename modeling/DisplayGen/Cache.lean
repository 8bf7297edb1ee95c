import DisplayGen.Crate
import DisplayGen.Summary

/-!
# The cache of the previous generation

The cache holds the artifacts of the previous generation with the summaries that they were made for,
at most one for each key, in the order of the keys. An artifact is used again only for an equal
summary.
-/

namespace DisplayGen

/-- An artifact with the summary that it was made for. -/
structure Generated where
  summary : Summary
  artifact : Artifact
  deriving DecidableEq, Repr, Inhabited

namespace Generated

/-- The key of the type that an artifact was made for. -/
def key (g : Generated) : String := g.summary.key

/-- The list with an artifact put in its place by key; one with the same key is replaced. -/
def insertInto (g : Generated) : List Generated → List Generated
  | [] => [g]
  | h :: hs =>
    if g.key < h.key then g :: h :: hs
    else if g.key = h.key then g :: hs
    else h :: insertInto g hs

end Generated

/-- The artifacts of the previous generation, in the order of their keys. -/
structure Cache where
  entries : List Generated
  deriving DecidableEq, Repr, Inhabited

namespace Cache

/-- Nothing has been generated. -/
def empty : Cache := ⟨[]⟩

/-- The entry under a key. -/
def get? (c : Cache) (key : String) : Option Generated := c.entries.find? fun g => g.key == key

/-- The artifact that was made for an equal summary. -/
def lookup (c : Cache) (s : Summary) : Option Artifact :=
  match c.get? s.key with
  | some g => if g.summary = s then some g.artifact else none
  | none => none

/-- Puts an artifact into the cache. -/
def insert (c : Cache) (g : Generated) : Cache := ⟨g.insertInto c.entries⟩

/-- The cache of the given artifacts; of several with one key the last counts. -/
def ofList (gs : List Generated) : Cache := gs.foldl insert empty

/-- Replaces the cache by a new generation. Also gives the names of the artifacts whose keys are
gone. -/
def commit (c : Cache) (gs : List Generated) : List String × Cache :=
  let next := ofList gs
  let gone := c.entries.filter fun g => (next.get? g.key).isNone
  (gone.map fun g => g.artifact.name, next)

end Cache

end DisplayGen
