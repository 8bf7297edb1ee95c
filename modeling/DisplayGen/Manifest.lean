import DisplayGen.Format.Json
import DisplayGen.Summary

/-!
# Manifests

A manifest records what a generation has written: the crate, the marker's file, and for every
artifact the summary that it was made for. It is kept as a JSON text (`Manifest.toText`,
`Manifest.read?`).
-/

namespace DisplayGen

open Format

/-- An artifact in a manifest: the name of its file, and the summary that it was made for. -/
structure ManifestEntry where
  artifactName : String
  summary : Summary
  deriving DecidableEq, Repr, Inhabited

/-- What a generation has written for a crate. -/
structure Manifest where
  crateName : String
  /-- The name of the file that defines the marker. -/
  markerArtifact : Option String
  entries : List ManifestEntry
  deriving DecidableEq, Repr, Inhabited

/-- The entry of a summary's artifact. -/
def Summary.toEntry (s : Summary) (extension : String) : ManifestEntry :=
  ⟨s.artifactName extension, s⟩

namespace ManifestEntry

/-! ## Entries -/

/-- The names of an entry's fields. -/
def fieldNames : List String := ["artifact_name", "namespace", "type_name", "member_names"]

/-- An entry as a JSON value. -/
def toJson (e : ManifestEntry) : JsonValue :=
  .object [
    (some "artifact_name", .ofText e.artifactName),
    (some "namespace", .ofText e.summary.namespaceName),
    (some "type_name", .ofText e.summary.typeName),
    (some "member_names", .array (e.summary.memberNames.map .ofText))]

/-- The entry with the given fields. -/
def ofFields? (artifactName namespaceName typeName memberNames : JsonValue) :
    Option ManifestEntry := do
  return ⟨← artifactName.text?, ← namespaceName.text?, ← typeName.text?, ← memberNames.texts?⟩

/-- The entry that a JSON value stands for: an object, or an array of the fields in order. The
members may be left out if there are none. -/
def ofJson? : JsonValue → Option ManifestEntry
  | .object members => do
    let fields ← JsonValue.fields? fieldNames members
    ofFields? (← fields.lookup "artifact_name") (← fields.lookup "namespace")
      (← fields.lookup "type_name") ((fields.lookup "member_names").getD (.array []))
  | .array [artifactName, namespaceName, typeName] =>
    ofFields? artifactName namespaceName typeName (.array [])
  | .array [artifactName, namespaceName, typeName, memberNames] =>
    ofFields? artifactName namespaceName typeName memberNames
  | _ => none

end ManifestEntry

namespace Manifest

/-! ## Manifests -/

/-- The manifest with its entries in the order of the artifacts' names. -/
def sorted (m : Manifest) : Manifest :=
  { m with entries := m.entries.mergeSort fun a b => a.artifactName ≤ b.artifactName }

/-- The names of a manifest's fields. -/
def fieldNames : List String := ["crate_name", "marker_artifact", "entries"]

/-- The name of the marker's file as a JSON value. -/
def markerToJson : Option String → JsonValue
  | some name => .ofText name
  | none => .null

/-- A manifest as a JSON value. -/
def toJson (m : Manifest) : JsonValue :=
  .object [
    (some "crate_name", .ofText m.crateName),
    (some "marker_artifact", markerToJson m.markerArtifact),
    (some "entries", .array (m.entries.map ManifestEntry.toJson))]

/-- A manifest as a text. -/
def toText (m : Manifest) : String := m.toJson.pretty

/-- The name of the marker's file that a JSON value stands for. -/
def markerOfJson? : JsonValue → Option (Option String)
  | .null => some none
  | v => v.text?.map some

/-- The entries that a JSON value stands for. -/
def entriesOfJson? : JsonValue → Option (List ManifestEntry)
  | .array items => items.mapM ManifestEntry.ofJson?
  | _ => none

/-- The manifest with the given fields. -/
def ofFields? (crateName markerArtifact entries : JsonValue) : Option Manifest := do
  return ⟨← crateName.text?, ← markerOfJson? markerArtifact, ← entriesOfJson? entries⟩

/-- The manifest that a JSON value stands for: an object, or an array of the fields in order. The
marker's file may be left out of an object. -/
def ofJson? : JsonValue → Option Manifest
  | .object members => do
    let fields ← JsonValue.fields? fieldNames members
    ofFields? (← fields.lookup "crate_name") ((fields.lookup "marker_artifact").getD .null)
      (← fields.lookup "entries")
  | .array [crateName, markerArtifact, entries] => ofFields? crateName markerArtifact entries
  | _ => none

/-- The manifest that a text holds. -/
def read? (text : String) : Option Manifest := (JsonValue.read? text).bind ofJson?

end Manifest

end DisplayGen
