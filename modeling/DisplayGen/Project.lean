import DisplayGen.Config.Stored
import DisplayGen.Crate.Stored
import DisplayGen.Invocation
import DisplayGen.Project.Package

/-!
# Projects

A project is a package together with its configuration. The configuration is the file that the
invocation names, else the one in the package's directory, else the one in the root of its
workspace, else the default.
-/

namespace DisplayGen

/-- What a directory is to the generator. -/
inductive DirectoryKind where
  /-- A package with a configuration. -/
  | configuredProject
  /-- A package without a configuration of its own. -/
  | plainProject
  | otherDirectory
  deriving DecidableEq, Repr, Inhabited

/-- What a directory is to the generator. -/
def DirectoryKind.ofPath (d : Disk) (dir : String) : DirectoryKind :=
  if d.contains (joinPaths dir Package.fileName) then
    if d.contains (joinPaths dir Config.fileName) then configuredProject else plainProject
  else otherDirectory

/-- A package with its configuration. -/
structure Project where
  root : String
  crateName : String
  config : Config
  /-- The directory of artifacts that the invocation names. -/
  outDir : Option String
  deriving DecidableEq, Repr, Inhabited

namespace Project

/-- The configuration that a file holds, checked. -/
def readConfig (d : Disk) (path : String) : Except Failure Config :=
  match Config.load d path with
  | .error cause => .error ⟨[s!"Failed to read {path}"], cause⟩
  | .ok c => do
    withContext s!"Invalid configuration in {path}" (ofConfig c.validate)
    return c

/-- The path of the configuration in the root of the workspace that a directory belongs to. -/
def workspaceConfig? (d : Disk) (root : String) : Option String := do
  let place ← (d.locate root).toOption
  let path := joinPaths (d.pathOf (← Package.workspaceRoot? d place)) Config.fileName
  if d.contains path then some path else none

/-- The path of the configuration of a project. -/
def configPath? (d : Disk) (root : String) (given : Option String) : Option String :=
  match given with
  | some path => some (joinPaths root path)
  | none =>
    let own := joinPaths root Config.fileName
    if d.contains own then some own else workspaceConfig? d root

/-- The configuration of a project. -/
def loadConfig (d : Disk) (root : String) (given : Option String) : Except Failure Config :=
  match configPath? d root given with
  | some path => readConfig d path
  | none => .ok .default

/-- The project in a directory, as an invocation asks for it. -/
def load (d : Disk) (root : String) (i : Invocation) : Except Failure Project := do
  let crateName ← Package.readCrateName d (joinPaths root Package.fileName)
  let config ← loadConfig d root i.configPath
  match i.outDir with
  | some dir => withContext "Invalid --out-dir" (ofConfig (config.checkOutputDir dir))
  | none => pure ()
  return ⟨root, crateName, config, i.outDir⟩

/-- The directory of the sources. -/
def sourceDir (p : Project) : String := joinPaths p.root p.config.sourceDir

/-- The directory of the artifacts. -/
def outputDir (p : Project) : String := joinPaths p.root (p.outDir.getD p.config.outputDir)

/-- The crate of a project, as its sources stand. -/
def loadCrate (p : Project) (d : Disk) : Except Failure Crate :=
  withContext s!"Failed to load sources from {p.sourceDir}"
    (ofGeneration (Crate.load d p.crateName p.sourceDir))

end Project

end DisplayGen
