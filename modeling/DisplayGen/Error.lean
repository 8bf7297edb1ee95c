/-!
# Failures of a generation

`GenerationError` lists what can go wrong between reading sources and finishing an artifact. Its
text is a headline and, where another reader gave up, the reason that it gave.
-/

namespace DisplayGen

/-- Why a file or directory could not be read or written. -/
inductive FileError where
  | notFound
  | invalidData
  | isADirectory
  | notADirectory
  | alreadyExists
  deriving DecidableEq, Repr, Inhabited

/-- The text of a file error. -/
def FileError.message : FileError → String
  | notFound => "no such file or directory"
  | invalidData => "the file is not valid UTF-8"
  | isADirectory => "is a directory"
  | notADirectory => "not a directory"
  | alreadyExists => "file exists"

/-- Why a generation fails. -/
inductive GenerationError where
  /-- Two sources or artifacts of one name. -/
  | nameCollision (name : String)
  /-- The name of the marker's definition is taken. -/
  | markerConflict (name : String)
  /-- The text is no path that can name a marker. -/
  | invalidMarkerPath (path reason : String)
  /-- The name cannot be written as an identifier. -/
  | invalidIdentifier (name : String)
  | emptyCrateName
  /-- The name of the marker has blanks or comments around it, so that it cannot be defined. -/
  | unwritableMarker (name : String)
  /-- The text of the unit is no source file. -/
  | unparsable (unit : String)
  /-- The unit holds source that is accepted but not interpreted, so that it cannot be printed. -/
  | unprintable (unit : String)
  | unreadable (path : String) (cause : FileError)
  deriving DecidableEq, Repr, Inhabited

namespace GenerationError

/-- What went wrong, up to the reason that another reader gave. -/
def headline : GenerationError → String
  | nameCollision name => s!"artifact name '{name}' is produced by more than one marked type"
  | markerConflict name =>
    s!"cannot inject marker definition: '{name}' already exists in the compilation"
  | invalidMarkerPath path reason => s!"invalid marker path '{path}': {reason}"
  | invalidIdentifier name => s!"'{name}' is not a valid Rust identifier"
  | emptyCrateName => "crate name must not be empty"
  | unwritableMarker name => s!"'{name}' cannot be the name of a definition"
  | unparsable unit => s!"failed to parse '{unit}'"
  | unprintable unit => s!"failed to print '{unit}'"
  | unreadable path _ => s!"failed to read '{path}'"

/-- The reason that the reader of a text or file gave. -/
def reason? : GenerationError → Option String
  | unparsable _ => some "it is not a source file"
  | unreadable _ cause => some cause.message
  | _ => none

/-- The whole text of an error. -/
def message (e : GenerationError) : String :=
  match e.reason? with
  | some reason => e.headline ++ ": " ++ reason
  | none => e.headline

end GenerationError

end DisplayGen
