import DisplayGen.Generator
import DisplayGen.Manifest

/-!
# What runs record

A run is recorded as a manifest (`Run.manifest`). A later generator starts from the record: each
artifact that it would give the same name, and that is still there, goes into its cache
(`Generator.seed`).
-/

namespace DisplayGen

/-- The record of a run. -/
def Run.manifest (r : Run) (crateName extension : String) : Manifest :=
  Manifest.sorted ⟨crateName, some r.marker.name, r.summaries.map fun s => s.toEntry extension⟩

namespace Generator

/-- The artifact of an entry. Nothing if the entry's name is not the one that the generator gives,
or if the artifact's text is gone. -/
def recorded? (g : Generator) (text? : ManifestEntry → Option String) (e : ManifestEntry) :
    Option Generated :=
  if e.artifactName = e.summary.artifactName g.extension then
    (text? e).map fun text => ⟨e.summary, ⟨e.artifactName, e.summary.modulePath, text⟩⟩
  else none

/-- The artifacts of a manifest that a generator can start from. -/
def recorded (g : Generator) (text? : ManifestEntry → Option String) (m : Manifest) :
    List Generated :=
  m.entries.filterMap (g.recorded? text?)

/-- Puts artifacts into the cache of a generator. -/
def seed (g : Generator) (gs : List Generated) : Generator :=
  { g with cache := gs.foldl Cache.insert g.cache }

end Generator

end DisplayGen
