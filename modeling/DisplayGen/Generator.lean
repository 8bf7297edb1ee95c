import DisplayGen.Cache
import DisplayGen.Emission
import DisplayGen.Extraction
import DisplayGen.Marker

/-!
# The generator

A generator is bound to a marker and an extension. It keeps the cache and the tally from one run to
the next. A run adds the marker's definition to a crate, extracts the summaries, generates for those
that the cache does not hold, and adds what was generated. A run that fails leaves the cache as it
is; what it has counted and added by then stays (`Outcome`).
-/

namespace DisplayGen

/-- A generator between two runs. -/
structure Generator where
  marker : Marker
  extension : String
  cache : Cache
  tally : Tally
  deriving DecidableEq, Repr, Inhabited

/-- What a run has produced. -/
structure Run where
  marker : Artifact
  /-- The artifacts of all marked types, in source order. -/
  generated : List Generated
  /-- The names of the artifacts that were generated in this run. -/
  emitted : List String
  /-- The names of the artifacts that came from the cache. -/
  reused : List String
  /-- The names of the artifacts whose types are gone. -/
  removed : List String
  deriving DecidableEq, Repr, Inhabited

namespace Run

/-- The summaries of a run, in source order. -/
def summaries (r : Run) : List Summary := r.generated.map (·.summary)

/-- The artifact was generated in this run. -/
def isEmitted (r : Run) (name : String) : Bool := r.emitted.contains name

end Run

/-- What is left after a run: the generator, the crate, and the run itself or why it failed. -/
structure Outcome where
  generator : Generator
  crate : Crate
  result : Except GenerationError Run
  deriving Inhabited

/-- What has been generated in a run so far. -/
structure Progress where
  tally : Tally
  generated : List Generated
  emitted : List String
  reused : List String
  deriving DecidableEq, Repr, Inhabited

/-- The first of the names that occurs a second time. -/
def firstRepeated? : (seen names : List String) → Option String
  | _, [] => none
  | seen, n :: ns => if seen.contains n then some n else firstRepeated? (n :: seen) ns

namespace Generator

/-- A generator that has not run yet. -/
def create (markerPath extension : String) : Except GenerationError Generator := do
  return ⟨← Marker.parse markerPath, extension, .empty, .empty⟩

/-- Takes one summary's artifact from the cache, or generates it. -/
def produce (g : Generator) (p : Progress) (s : Summary) : Except GenerationError Progress :=
  match g.cache.lookup s with
  | some a =>
    .ok { p with generated := p.generated ++ [⟨s, a⟩], reused := p.reused ++ [a.name] }
  | none => do
    let (a, tally) ← emit g.extension p.tally s
    return { p with tally, generated := p.generated ++ [⟨s, a⟩], emitted := p.emitted ++ [a.name] }

/-- Produces the artifacts of the summaries one after the other, up to the first that fails. -/
def produceAll (g : Generator) (p : Progress) : List Summary → Progress × Option GenerationError
  | [] => (p, none)
  | s :: ss =>
    match g.produce p s with
    | .ok p' => produceAll g p' ss
    | .error e => (p, some e)

/-- Adds artifacts to a crate one after the other, up to the first that is refused. -/
def addAll (c : Crate) : List Artifact → Crate × Option GenerationError
  | [] => (c, none)
  | a :: as =>
    match c.addArtifact a with
    | .ok c' => addAll c' as
    | .error e => (c, some e)

/-- A run over a crate that holds the marker's definition. -/
def runMarked (g : Generator) (marker : Artifact) (c : Crate) : Outcome :=
  let summaries := c.summaries g.marker.path
  match firstRepeated? [] (summaries.map fun s => s.artifactName g.extension) with
  | some name => ⟨g, c, .error (.nameCollision name)⟩
  | none =>
    match g.produceAll ⟨g.tally, [], [], []⟩ summaries with
    | (p, some e) => ⟨{ g with tally := p.tally }, c, .error e⟩
    | (p, none) =>
      let g := { g with tally := p.tally }
      match addAll c (p.generated.map (·.artifact)) with
      | (c, some e) => ⟨g, c, .error e⟩
      | (c, none) =>
        let (removed, cache) := g.cache.commit p.generated
        ⟨{ g with cache }, c, .ok ⟨marker, p.generated, p.emitted, p.reused, removed⟩⟩

/-- A run over a crate. The crate must not hold what an earlier run has added. -/
def run (g : Generator) (c : Crate) : Outcome :=
  match g.marker.definition with
  | .error e => ⟨g, c, .error e⟩
  | .ok marker =>
    if c.contains marker.name then ⟨g, c, .error (.markerConflict marker.name)⟩
    else
      match c.addArtifact marker with
      | .error e => ⟨g, c, .error e⟩
      | .ok c => g.runMarked marker c

end Generator

end DisplayGen
