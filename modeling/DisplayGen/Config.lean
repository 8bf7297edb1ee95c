import DisplayGen.Format.Ron
import DisplayGen.ModulePath
import DisplayGen.Text.Chars
import DisplayGen.Text.Escape

/-!
# Configuration

The settings of a project. They are written as a RON struct, read back from one (`Config.read?`),
and checked before use (`Config.validate`): above all, what is generated must not be written among
the sources.
-/

namespace DisplayGen

open Format

/-- The settings of a project. -/
structure Config where
  /-- The path of the marker, from `crate` on. -/
  markerPath : String
  /-- The directory of the sources. -/
  sourceDir : String
  /-- The directory that artifacts are written to. -/
  outputDir : String
  /-- The extension of artifact names. -/
  artifactExtension : String
  /-- How long to wait for the sources to settle, in milliseconds. -/
  watchInterval : UInt64
  deriving DecidableEq, Repr, Inhabited

/-- Why a configuration cannot be used. -/
inductive ConfigError where
  | markerNotInCrate (path : String)
  | emptyMarkerSegment (path : String)
  | badExtension (extension : String)
  | emptyDirectory
  | outputInsideSource (output source : String)
  | zeroInterval
  deriving DecidableEq, Repr, Inhabited

namespace Config

/-- The marker's path unless configured otherwise. -/
def defaultMarkerPath : String := "crate::strgen::GenerateDisplay"

/-- The configuration of a project that has none. -/
def default : Config := ⟨defaultMarkerPath, "src", ".strgen", "rs", 500⟩

/-- The name of the configuration's file. -/
def fileName : String := "strgen.ron"

end Config

/-- The text of a configuration error. -/
def ConfigError.message : ConfigError → String
  | markerNotInCrate path =>
    s!"marker_path '{path}' must be a crate-relative path such as '{Config.defaultMarkerPath}'"
  | emptyMarkerSegment path => s!"marker_path '{path}' contains an empty segment"
  | badExtension extension =>
    s!"artifact_extension '{extension}' must be a non-empty extension without dots"
  | emptyDirectory => "source_dir and output_dir must not be empty"
  | outputInsideSource output source =>
    s!"output_dir '{output}' must not be inside source_dir '{source}'"
  | zeroInterval => "watch_interval_ms must be greater than zero"

namespace Config

/-! ## Checks -/

/-- The text holds nothing but white space. -/
def isBlank (s : String) : Bool := s.toList.all Text.isSpace

/-- The components of a directory, those that stay where they are apart. -/
def directoryParts (dir : String) : List PathPart := (pathParts dir).filter (· ≠ .current)

/-- Checks that a directory is not the directory of the sources and does not lie in it. -/
def checkOutputDir (c : Config) (dir : String) : Except ConfigError Unit :=
  if (directoryParts c.sourceDir).isPrefixOf (directoryParts dir) then
    .error (.outputInsideSource dir c.sourceDir)
  else .ok ()

/-- Checks the path of the marker. -/
def checkMarkerPath (path : String) : Except ConfigError Unit :=
  match Text.splitPath path with
  | "crate" :: s :: ss =>
    if (s :: ss).any isBlank then .error (.emptyMarkerSegment path) else .ok ()
  | _ => .error (.markerNotInCrate path)

/-- Checks the extension of artifact names. -/
def checkExtension (extension : String) : Except ConfigError Unit :=
  if extension.isEmpty || extension.toList.contains '.' then .error (.badExtension extension)
  else .ok ()

/-- Checks the values that a generation cannot work around. -/
def validate (c : Config) : Except ConfigError Unit := do
  checkMarkerPath c.markerPath
  checkExtension c.artifactExtension
  if c.sourceDir.isEmpty || c.outputDir.isEmpty then throw .emptyDirectory
  c.checkOutputDir c.outputDir
  if c.watchInterval = 0 then throw .zeroInterval

/-- The configuration, if it can be used. -/
def build (c : Config) : Except ConfigError Config := do
  c.validate
  return c

/-! ## Text -/

/-- A text between quotes. -/
def quote (s : String) : String := String.ofList ('\"' :: Text.escapeAll s.toList ++ ['\"'])

/-- A field on a line of its own. -/
def fieldLine (name value : String) : String := "    " ++ name ++ ": " ++ value ++ ",\n"

/-- The configuration as a text. -/
def toText (c : Config) : String :=
  "(\n" ++ fieldLine "marker_path" (quote c.markerPath) ++
    fieldLine "source_dir" (quote c.sourceDir) ++ fieldLine "output_dir" (quote c.outputDir) ++
    fieldLine "artifact_extension" (quote c.artifactExtension) ++
    fieldLine "watch_interval_ms" (toString c.watchInterval.toNat) ++ ")"

/-- The names of the fields in a text. -/
def fieldNames : List String :=
  ["marker_path", "source_dir", "output_dir", "artifact_extension", "watch_interval_ms"]

/-- The text of a field, or what it is by default if it is not given. -/
def textField (fields : List (String × RonValue)) (name byDefault : String) : Option String :=
  match fields.lookup name with
  | none => some byDefault
  | some (.text s) => some s
  | some _ => none

/-- The number of a field, or what it is by default if it is not given. -/
def numberField (fields : List (String × RonValue)) (name : String) (byDefault : UInt64) :
    Option UInt64 :=
  match fields.lookup name with
  | none => some byDefault
  | some (.natural n) => some (UInt64.ofNat n)
  | some _ => none

/-- A known field is given twice. -/
def repeatsField (fields : List (String × RonValue)) : Bool :=
  fieldNames.any fun n => 1 < (fields.filter fun f => f.1 = n).length

/-- The configuration that fields make. Fields that are not known do not count. -/
def ofFields? (fields : List (String × RonValue)) : Option Config :=
  if repeatsField fields then none
  else do
    let marker ← textField fields "marker_path" default.markerPath
    let source ← textField fields "source_dir" default.sourceDir
    let output ← textField fields "output_dir" default.outputDir
    let extension ← textField fields "artifact_extension" default.artifactExtension
    let interval ← numberField fields "watch_interval_ms" default.watchInterval
    return ⟨marker, source, output, extension, interval⟩

/-- The configuration that bytes hold, unchecked. -/
def ofBytes? (bytes : List Nat) : Option Config :=
  match RonValue.readStruct? "GeneratorConfig" bytes with
  | some fields => ofFields? fields
  | none => none

/-- The configuration that a text holds, unchecked. -/
def read? (text : String) : Option Config := ofBytes? (Text.encode text)

end Config

end DisplayGen
