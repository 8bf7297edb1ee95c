import DisplayGen.Crate
import DisplayGen.Source.Fragment
import DisplayGen.Emission.Header

/-!
# Markers

The marker is a type of the crate that is generated for. Structs carry it as an attribute. Its
definition is an artifact that is added to the crate, so that attributes can resolve to it.
-/

namespace DisplayGen

/-- The path of a marker as configured, taken apart. -/
structure Marker where
  path : String
  module : List String
  name : String
  deriving DecidableEq, Repr, Inhabited

namespace Marker

/-- The first of the segments that is no identifier. -/
def badSegment? (segments : List String) : Option String :=
  segments.find? fun s => (Source.Ident.read? s).isNone

/-- Takes the path of a marker apart: `crate`, then the module and the name. -/
def parse (path : String) : Except GenerationError Marker :=
  match Text.splitPath path with
  | "crate" :: segments =>
    match badSegment? segments with
    | some s => .error (.invalidMarkerPath path s!"'{s}' is not an identifier")
    | none =>
      match segments.getLast? with
      | some name => .ok ⟨path, segments.dropLast, name⟩
      | none => .error (.invalidMarkerPath path "missing type name")
  | _ => .error (.invalidMarkerPath path "must start with 'crate::'")

/-- The name of the file that holds the marker's definition. -/
def artifactName (m : Marker) : String := "__strgen_marker." ++ m.name ++ ".g.rs"

/-- The name is an identifier as it stands, with nothing around it. -/
def hasExactName (m : Marker) : Bool :=
  match Source.Ident.read? m.name with
  | some i => i.written == m.name
  | none => false

/-- The text that defines the marker. -/
def definitionText (name : String) : String :=
  generatedHeader ++ "\n" ++
  "/// Marks a struct for generated \x60Display\x60 output\n" ++
  "#[allow(dead_code)]\n" ++
  "#[derive(Debug, Clone, Copy, Default)]\n" ++
  "pub struct " ++ name ++ ";\n"

/-- The definition of the marker. A name with blanks or comments around it cannot be written there.
-/
def definition (m : Marker) : Except GenerationError Artifact :=
  if m.hasExactName then .ok ⟨m.artifactName, m.module, definitionText m.name⟩
  else .error (.unwritableMarker m.name)

end Marker

end DisplayGen
