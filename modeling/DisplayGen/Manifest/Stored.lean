import DisplayGen.Disk.Work
import DisplayGen.Manifest

/-!
# Manifests on disk

A manifest is a file in the directory of the artifacts that it records.
-/

namespace DisplayGen

namespace Manifest

/-- The name of the file of a manifest. -/
def fileName : String := "manifest.json"

/-- The path of the manifest of a directory. -/
def pathIn (dir : String) : String := joinPaths dir fileName

/-- Writes a manifest into a directory, which is made if it is not there. -/
def save (m : Manifest) (dir : String) : Work Unit := do
  if m.crateName.isEmpty then
    throw (.ofCause (.plain "Cannot serialize GenerationManifest with empty crate_name"))
  Work.change s!"Failed to create directory: {dir}" fun d => d.makeDirs dir
  Work.change s!"Failed to open file for writing: {pathIn dir}" fun d =>
    d.write (pathIn dir) m.toText

/-- The manifest of a directory, if there is one. -/
def load? (d : Disk) (dir : String) : Except Failure (Option Manifest) := do
  let path := pathIn dir
  if d.contains path then
    let text ← withContext s!"Failed to read file: {path}" (ofFile (d.readText path))
    match read? text with
    | some m => return some m
    | none => throw ⟨[s!"Failed to parse JSON from: {path}"], .manifestText⟩
  else return none

end Manifest

/-- The text of an artifact that the manifest of a directory records, if it is still there. -/
def ManifestEntry.artifactText? (e : ManifestEntry) (d : Disk) (dir : String) : Option String :=
  (d.readText (joinPaths dir e.artifactName)).toOption

end DisplayGen
