import DisplayGen.Disk.Basic
import DisplayGen.Failure

/-!
# Work on a disk

Work looks at a disk and changes it, step by step. A step that fails ends the work; what the steps
before it have written stays.
-/

namespace DisplayGen

/-- Work on a disk that may fail. -/
abbrev Work := ExceptT Failure (StateM Disk)

namespace Work

/-- The outcome of work, and the disk after it. -/
def outcome {α : Type} (w : Work α) (d : Disk) : Except Failure α × Disk := (w.run).run d

/-- Looks at the disk. -/
def look {α : Type} (f : Disk → α) : Work α := return f (← get)

/-- Ends the work with a failure, if there is one. -/
def ensure {α : Type} (r : Except Failure α) : Work α := ExceptT.mk (pure r)

/-- Changes the disk. What was being done is said if that fails. -/
def change (context : String) (f : Disk → Except FileError Disk) : Work Unit := do
  set (← ensure (withContext context (ofFile (f (← get)))))

end Work

end DisplayGen
