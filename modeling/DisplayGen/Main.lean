import DisplayGen.CommandLine

/-!
# The program

The part of the file system that an invocation needs is read into a disk, the command line is run on
that disk, and what has changed on it is brought back. The root of the disk is the root of the file
system.
-/

namespace DisplayGen.Program

/-- The disk with a file or directory of the file system, and all that stands below it. What cannot
be read is left out. -/
partial def addPath (d : Disk) (path : String) : IO Disk := do
  let place := (← IO.currentDir) / path
  if ← place.isDir then
    let d := (d.makeDirs path).toOption.getD d
    (← place.readDir).foldlM (fun d entry => addPath d (joinPaths path entry.fileName)) d
  else if ← place.pathExists then
    try
      let bytes ← IO.FS.readBinFile place
      let content : FileContent :=
        match String.fromUTF8? bytes with
        | some text => .text text
        | none => .bytes (bytes.toList.map UInt8.toNat)
      let parent := Text.joinWith "/" ((path.splitOn "/").dropLast)
      let d := (d.makeDirs parent).toOption.getD d
      return (d.put path content).toOption.getD d
    catch _ => return d
  else return d

/-- The directories that a path lies in, itself included. -/
def directoriesAbove (path : String) : List String :=
  let names := (path.splitOn "/").drop 1
  (List.range (names.length + 1)).map fun n => String.join ((names.take n).map ("/" ++ ·))

/-- The files that say what a project is. -/
def projectFiles (root : String) (i : Invocation) : List String :=
  ((directoriesAbove root).flatMap fun dir => [dir ++ "/" ++ Package.fileName, dir ++ "/" ++ Config.fileName]) ++
    [joinPaths root "src/lib.rs", joinPaths root "src/main.rs"] ++
    i.configPath.toList.map (joinPaths root)

/-- Reads what an invocation needs in a directory. -/
def readDisk (root : String) (i : Invocation) : IO Disk := do
  let d ← (projectFiles root i).foldlM addPath ((Disk.mk "" []).makeDirs root |>.toOption.getD ⟨"", []⟩)
  match Project.load d root i with
  | .error _ => return d.age
  | .ok p => return (← [p.sourceDir, p.outputDir].foldlM addPath d).age

/-- Brings what has changed on a disk back to the file system. -/
def writeBack (before after : Disk) : IO Unit := do
  for (place, node) in before.nodes do
    if (after.node? place).isNone && node != .directory then IO.FS.removeFile (after.pathOf place)
  for (place, node) in after.nodes.mergeSort fun a b => Disk.placeLe a.1 b.1 do
    match node with
    | .directory =>
      if (before.node? place).isNone then IO.FS.createDirAll (after.pathOf place)
    | .file (.text text) true => IO.FS.writeFile (after.pathOf place) text
    | .file _ _ => pure ()

/-- Prints a report. -/
def printReport (r : Report) : IO Unit := do
  IO.print (ofLines r.out)
  IO.eprint (ofLines r.err)

/-- Makes a pass of a session on a disk. -/
def makePass (s : Session) (d : Disk) : IO Session := do
  let o := s.pass d
  writeBack d o.disk
  printReport (CommandLine.passReport o.result)
  return o.session

/-- The source files of a project and what they hold. -/
def sourcesOf (p : Project) (d : Disk) : List (List String × Option String) :=
  match d.locate p.sourceDir with
  | .error _ => []
  | .ok start => (d.sourcesBelow start).map fun place => (place, (d.textAt place).toOption)

/-- Makes a pass whenever the sources have changed and then stayed the same for a while. -/
partial def watchSources (root : String) (i : Invocation) (s : Session)
    (passed seen : List (List String × Option String)) : IO Unit := do
  IO.sleep (UInt32.ofNat (min s.project.config.watchInterval.toNat 4294967295))
  let d ← readDisk root i
  let current := sourcesOf s.project d
  if current == seen && current != passed then
    watchSources root i (← makePass s d) current current
  else watchSources root i s passed current

/-- Runs the program in a directory. -/
def run (args : List String) (root : String) : IO UInt32 := do
  let i := Invocation.parse args
  let d ← readDisk root i
  let (report, after) := CommandLine.run args root d
  writeBack d after
  printReport report
  if i.command = .watch && report.code = 0 then
    match (CommandLine.startWatching root i).outcome d with
    | (.ok s, _) =>
      let sources := sourcesOf s.project d
      watchSources root i (← makePass s d) sources sources
    | (.error _, _) => pure ()
  return report.code.toUInt32

end DisplayGen.Program

/-- Runs the program in the current directory. -/
def main (args : List String) : IO UInt32 := do
  DisplayGen.Program.run ("cargo-strgen" :: args) (← IO.currentDir).toString
