import DisplayGen.Generator.Stored
import DisplayGen.Project

/-!
# Sessions

A session is a generator bound to a project. It starts from what the last run has left in the
project's output directory, and makes passes: load the sources, run the generator, bring the run to
the disk.
-/

namespace DisplayGen

/-- A generator bound to a project. -/
structure Session where
  project : Project
  generator : Generator
  deriving DecidableEq, Repr, Inhabited

/-- What is left after a pass: the session, the disk, and the run or why it failed. -/
structure PassOutcome where
  session : Session
  disk : Disk
  result : Except Failure Run
  deriving Inhabited

namespace Session

/-- The session of a project. The record of an earlier run is taken up if it is one of the same
crate. -/
def start (d : Disk) (p : Project) : Except Failure Session := do
  let g ← withContext "Invalid generator configuration"
    (ofGeneration (Generator.create p.config.markerPath p.config.artifactExtension))
  match ← Manifest.load? d p.outputDir with
  | some m =>
    if m.crateName = p.crateName then
      return ⟨p, g.seed (g.recorded (fun e => e.artifactText? d p.outputDir) m)⟩
    else return ⟨p, g⟩
  | none => return ⟨p, g⟩

/-- Makes a pass. What a failing pass has done to the generator and the disk stays. -/
def pass (s : Session) (d : Disk) : PassOutcome :=
  match s.project.loadCrate d with
  | .error e => ⟨s, d, .error e⟩
  | .ok c =>
    let o := s.generator.run c
    let s := { s with generator := o.generator }
    match withContext "Generation failed" (ofGeneration o.result) with
    | .error e => ⟨s, d, .error e⟩
    | .ok run =>
      let save := run.save s.project.crateName s.project.config.artifactExtension s.project.outputDir
      let (saved, d) := save.outcome d
      ⟨s, d, saved.map fun _ => run⟩

/-- A pass as work. -/
def passWork (s : Session) : Work Run :=
  ExceptT.mk fun d =>
    let o := s.pass d
    (o.result, o.disk)

end Session

end DisplayGen
