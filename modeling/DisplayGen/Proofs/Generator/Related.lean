import DisplayGen.Generator.Stored
import DisplayGen.Proofs.Disk.Alike

/-!
# Saves on related disks

Where the operations of a save keep a relation between disks (`Disk.Respected`), so does the save of a run, if
that of its artifacts does (`Run.save_relates`).
-/

namespace DisplayGen

variable {R : Disk → Disk → Prop}

theorem removeArtifact_relates (hR : Disk.Respected R) (dir name : String) :
    (removeArtifact dir name).Relates R (removeArtifact dir name) := by
  intro d d' hd
  unfold removeArtifact
  dsimp only
  rw [Work.look_bind, Work.look_bind, hR.contains hd]
  split
  · exact Work.Relates.change (fun d d' hd => hR.removeFile hd _) d d' hd
  · exact ⟨rfl, hd⟩

theorem Manifest.save_relates (hR : Disk.Respected R) (m : Manifest) (dir : String) :
    (m.save dir).Relates R (m.save dir) := by
  unfold Manifest.save
  dsimp only
  split
  · exact .bind (.error _) fun _ => .bind (.change fun d d' hd => hR.makeDirs hd dir) fun _ =>
      .change fun d d' hd => hR.write hd _ _
  · exact .bind (.change fun d d' hd => hR.makeDirs hd dir) fun _ =>
      .change fun d d' hd => hR.write hd _ _

/-- Saves of runs with the same record that remove the same agree, if those of their artifacts do. -/
theorem Run.save_relates (hR : Disk.Respected R) {r r' : Run} {crateName extension dir : String}
    (hartifacts : List.Forall₂ (fun a b => (Artifact.save a dir).Relates R (Artifact.save b dir))
      r.artifacts r'.artifacts)
    (hremoved : r.removed = r'.removed)
    (hmanifest : r.manifest crateName extension = r'.manifest crateName extension) :
    (r.save crateName extension dir).Relates R (r'.save crateName extension dir) := by
  have hnames : List.Forall₂ (fun n n' => (removeArtifact dir n).Relates R (removeArtifact dir n'))
      r.removed r'.removed := by
    rw [hremoved]
    exact List.forall₂_same.2 fun n _ => removeArtifact_relates hR dir n
  unfold Run.save
  rw [hmanifest]
  exact .bind (.change fun d d' hd => hR.makeDirs hd dir) fun _ => .bind (.forM hartifacts) fun _ =>
    .bind (.forM hnames) fun _ => Manifest.save_relates hR _ dir

end DisplayGen
