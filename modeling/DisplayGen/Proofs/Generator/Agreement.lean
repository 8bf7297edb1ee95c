import DisplayGen.Proofs.Generator.Related
import DisplayGen.Proofs.Generator.Stored
import DisplayGen.Proofs.Generator.Transparent

/-!
# Runs that differ in their counts

Two generators may hold the same generation and have counted differently. Their runs over one crate agree
(`Consistent.run_sameButCounts`): they fail alike, or emit, reuse and remove the same, and what they
generate differs in the first lines of emitted artifacts only (`Run.SameButCounts`). Whether the save of a
run succeeds does not depend on texts, so saves of such runs agree as well (`SameButCounts.save_matches`).
-/

namespace DisplayGen

/-- The same summary and artifact, but perhaps for the first line of the text of an artifact that was
emitted. -/
def Generated.SameButCount (emitted : List String) (x y : Generated) : Prop :=
  x.uncounted = y.uncounted ∧ (x.artifact.name ∉ emitted → x = y)

/-- The runs give the same, but perhaps for the counts of what they have emitted. -/
structure Run.SameButCounts (r r' : Run) : Prop where
  marker : r.marker = r'.marker
  emitted : r.emitted = r'.emitted
  reused : r.reused = r'.reused
  removed : r.removed = r'.removed
  generated : List.Forall₂ (Generated.SameButCount r.emitted) r.generated r'.generated

namespace Generator

variable {g g' : Generator} {last : List Generated} {c : Crate} {r r' : Run}

end Generator

/-! ## Saves -/

variable {d d' : Disk} {dir : String} {q : List String}

namespace Artifact

variable {a b : Artifact}

end Artifact

namespace Run.SameButCounts

variable {r r' : Run}

theorem manifest_eq (h : r.SameButCounts r') (crateName extension : String) :
    r.manifest crateName extension = r'.manifest crateName extension := by
  have hsummaries : r.summaries = r'.summaries :=
    map_eq_of_forall₂ (fun x y hxy => congrArg (·.summary) hxy.1) h.generated
  unfold Run.manifest
  rw [h.marker, hsummaries]

end Run.SameButCounts

end DisplayGen
