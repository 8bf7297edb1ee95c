import DisplayGen.CommandLine.Help
import DisplayGen.Session

/-!
# The command line

A command line is run on a disk: each command is work that gives lines to print, and its failure is
printed as an error. The exit code says how it went.
-/

namespace DisplayGen

/-- What the program prints, line by line, and its exit code. -/
structure Report where
  code : UInt8
  out : List String
  err : List String
  deriving DecidableEq, Repr, Inhabited

/-- Lines as one text. -/
def ofLines (lines : List String) : String := String.join (lines.map (· ++ "\n"))

namespace CommandLine

/-! ## Lines -/

/-- The line that reports a failure. -/
def errorLine (f : Failure) : String := Style.boldRed "Error:" ++ " " ++ f.message

/-- The line for one artifact of a run. -/
def artifactLine (r : Run) (name : String) : String :=
  "  " ++ (if r.isEmitted name then Style.green "generated" else Style.blue "unchanged") ++ " " ++ name

/-- The line that counts what a run has done. -/
def countLine (r : Run) : String :=
  Style.bold "cargo-strgen:" ++
    s!" {r.emitted.length} generated, {r.reused.length} unchanged, {r.removed.length} removed"

/-- The lines that report a run. -/
def runLines (r : Run) : List String :=
  r.generated.map (fun g => artifactLine r g.artifact.name) ++
    r.removed.map (fun name => "  " ++ Style.yellow "removed" ++ " " ++ name) ++ [countLine r]

/-- The lines that show a summary. -/
def summaryLines (s : Summary) : List String :=
  (Style.blue s.namespaceName ++ "::" ++ Style.bold s.typeName) ::
    s.memberNames.map fun m => "    " ++ m

/-- The lines for the words of an invocation that are passed over. -/
def warningLines (i : Invocation) : List String :=
  i.incomplete.toList.map (fun flag => s!"Warning: {flag.word} flag requires a path argument") ++
    i.unknown.map fun w => Style.yellow "Warning:" ++ s!" ignoring unknown argument '{w}'"

/-! ## Commands -/

/-- The project that an invocation asks for. -/
def loadProject (root : String) (i : Invocation) : Work Project := do
  Work.ensure (Project.load (← get) root i)

/-- The session of a project. -/
def startSession (p : Project) : Work Session := do
  Work.ensure (Session.start (← get) p)

/-- Makes one pass in a new session. -/
def generate (root : String) (i : Invocation) : Work (List String) := do
  let s ← startSession (← loadProject root i)
  return runLines (← s.passWork)

/-- Shows the summaries of a project. -/
def printSummaries (root : String) (i : Invocation) : Work (List String) := do
  let p ← loadProject root i
  let c ← Work.ensure (p.loadCrate (← get))
  let path := p.config.markerPath
  let definition ← Work.ensure (withContext "Invalid marker path" (ofGeneration do
    (← Marker.parse path).definition))
  let c ← Work.ensure (withContext "Failed to inject marker definition"
    (ofGeneration (c.addArtifact definition)))
  match c.summaries path with
  | [] => return [Style.yellow s!"No types marked with {path}"]
  | summaries => return summaries.flatMap summaryLines

/-- Writes the default configuration, unless there is one. -/
def generateConfig (root : String) : Work (List String) := do
  let path := joinPaths root Config.fileName
  if ← Work.look fun d => d.contains path then
    return [s!"{path} already exists, leaving it alone.",
      "Remove it if you want to regenerate the configuration."]
  else
    Config.default.save path
    return ["Created " ++ Style.green Config.fileName]

/-- Gets ready to watch the sources of a project. -/
def startWatching (root : String) (i : Invocation) : Work Session := do
  let s ← startSession (← loadProject root i)
  let dir := s.project.sourceDir
  if ← Work.look fun d => d.contains dir then return s
  else throw ⟨[s!"Failed to watch {dir}"], .plain "No path was found."⟩

/-- Runs a command. Watching only gets ready; its passes are made as the sources change. -/
def runCommand (root : String) (i : Invocation) : Work (List String) :=
  match i.command with
  | .generate => generate root i
  | .printSummaries => printSummaries root i
  | .generateConfig => generateConfig root
  | .watch => do
    let s ← startWatching root i
    return [Style.cyan "Watching" ++ " " ++ s.project.sourceDir]

/-- The report of one pass while sources are watched. -/
def passReport : Except Failure Run → Report
  | .ok run => ⟨0, runLines run, []⟩
  | .error f => ⟨1, [], [errorLine f]⟩

/-! ## The program -/

/-- The report of work, and the disk after it. -/
def reportOf (w : Work (List String)) (d : Disk) : Report × Disk :=
  match w.outcome d with
  | (.ok lines, d) => (⟨0, lines, []⟩, d)
  | (.error f, d) => (⟨1, [], [errorLine f]⟩, d)

/-- Runs an invocation in a directory. -/
def runInvocation (root : String) (i : Invocation) (d : Disk) : Report × Disk :=
  if i.command ≠ .generateConfig && DirectoryKind.ofPath d root = .otherDirectory then
    (⟨255, wrongDirectoryLines, []⟩, d)
  else reportOf (runCommand root i) d

/-- Runs the program with its arguments, its own name first, in a directory. -/
def run (args : List String) (root : String) (d : Disk) : Report × Disk :=
  if args.any fun a => a == "--help" || a == "-h" then (⟨0, helpLines, []⟩, d)
  else if args.any fun a => a == "--version" || a == "-V" then (⟨0, [versionLine], []⟩, d)
  else
    let i := Invocation.parse args
    let (r, d) := runInvocation root i d
    ({ r with err := warningLines i ++ r.err }, d)

end CommandLine

end DisplayGen
