import DisplayGen.Generator.Recorded
import DisplayGen.Manifest.Stored

/-!
# Runs on disk

After a run its artifacts are brought to a directory: those that differ from their files are
written, those whose types are gone are removed, and the record of the run is written last. An
artifact whose file holds its text already is left alone.
-/

namespace DisplayGen

/-- Writes an artifact into a directory, unless its file holds the same text. -/
def Artifact.save (a : Artifact) (dir : String) : Work Unit := do
  let path := joinPaths dir a.name
  let current ← Work.look fun d => (d.readText path).toOption
  if current ≠ some a.text then
    Work.change s!"Failed to write artifact: {path}" fun d => d.write path a.text

/-- Removes the file of an artifact, if it is there. -/
def removeArtifact (dir name : String) : Work Unit := do
  let path := joinPaths dir name
  if ← Work.look fun d => d.contains path then
    Work.change s!"Failed to remove stale artifact: {path}" fun d => d.removeFile path

namespace Run

/-- The artifacts of a run, the marker's first. -/
def artifacts (r : Run) : List Artifact := r.marker :: r.generated.map (·.artifact)

/-- Brings a run to a directory. -/
def save (r : Run) (crateName extension dir : String) : Work Unit := do
  Work.change s!"Failed to create directory: {dir}" fun d => d.makeDirs dir
  r.artifacts.forM fun a => a.save dir
  r.removed.forM (removeArtifact dir)
  (r.manifest crateName extension).save dir

end Run

end DisplayGen
