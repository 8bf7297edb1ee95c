import DisplayGen.Config
import DisplayGen.Error

/-!
# Failures of commands

A failure is a cause, behind what was being done when it struck, outermost first.
-/

namespace DisplayGen

/-- What makes a command fail. -/
inductive Cause where
  /-- Something that the text says. -/
  | plain (text : String)
  | config (e : ConfigError)
  | generation (e : GenerationError)
  | file (e : FileError)
  /-- The text of a configuration is not well formed. -/
  | configText
  /-- The text of a manifest is not well formed. -/
  | manifestText
  /-- The text of a package description is not well formed. -/
  | packageText
  deriving DecidableEq, Repr, Inhabited

/-- The text of a cause. -/
def Cause.message : Cause → String
  | plain text => text
  | config e => e.message
  | generation e => e.message
  | file e => e.message
  | configText => "the configuration is not well formed"
  | manifestText => "the manifest is not well formed"
  | packageText => "the package description is not well formed"

/-- A cause, and what was being done, outermost first. -/
structure Failure where
  contexts : List String
  cause : Cause
  deriving DecidableEq, Repr, Inhabited

namespace Failure

/-- A cause alone. -/
def ofCause (c : Cause) : Failure := ⟨[], c⟩

/-- The failure while something was being done. -/
def inContext (context : String) (f : Failure) : Failure := { f with contexts := context :: f.contexts }

/-- The text of a failure. -/
def message (f : Failure) : String := Text.joinWith ": " (f.contexts ++ [f.cause.message])

end Failure

/-- Says what was being done, should it fail. -/
def withContext {α : Type} (context : String) (r : Except Failure α) : Except Failure α :=
  r.mapError (Failure.inContext context)

/-- Turns a failed generation step into a failure. -/
def ofGeneration {α : Type} (r : Except GenerationError α) : Except Failure α :=
  r.mapError fun e => .ofCause (.generation e)

/-- Turns a failed file operation into a failure. -/
def ofFile {α : Type} (r : Except FileError α) : Except Failure α :=
  r.mapError fun e => .ofCause (.file e)

/-- Turns a failed check into a failure. -/
def ofConfig {α : Type} (r : Except ConfigError α) : Except Failure α :=
  r.mapError fun e => .ofCause (.config e)

end DisplayGen
