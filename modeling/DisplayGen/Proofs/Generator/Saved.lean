import DisplayGen.Proofs.Disk.Files
import DisplayGen.Proofs.Generator.Stored

/-!
# Which files a save moves

* `Run.save_touches`: whether it succeeds or not, a save puts files only in the places of its outputs,
  and removes files only from the places of the names that the run has removed.
* `Run.save_ok`: after a save that succeeds all outputs are found, and what stood in the places of removed
  names is gone (`Run.Saved`).
-/

namespace DisplayGen

variable {d d' : Disk} {dir : String} {q : List String}

theorem Artifact.save_touches (a : Artifact) (dir : String) :
    (a.save dir).Touches [joinPaths dir a.name] [] := by
  unfold Artifact.save
  dsimp only
  refine .bind (.look _) fun current => ?_
  split
  · refine .change fun d d' h => (Disk.write_moves h).mono ?_ ?_
    · exact fun q hq => ⟨_, List.mem_singleton_self _, hq⟩
    · exact fun q hq => hq.elim
  · exact .pure ()

theorem removeArtifact_touches (dir name : String) :
    (removeArtifact dir name).Touches [] [joinPaths dir name] := by
  unfold removeArtifact
  dsimp only
  refine .bind (.look _) fun there => ?_
  split
  · refine .change fun d d' h => (Disk.removeFile_moves h).mono ?_ ?_
    · exact fun q hq => hq.elim
    · exact fun q hq => ⟨_, List.mem_singleton_self _, hq⟩
  · exact .pure ()

theorem Manifest.save_touches (m : Manifest) (dir : String) :
    (m.save dir).Touches [Manifest.pathIn dir] [] := by
  have hdirs : ∀ context, (Work.change context fun d => d.makeDirs dir).Touches
      [Manifest.pathIn dir] [] := fun context => .change fun d d' h =>
    (Disk.makeDirs_moves h).mono (fun q hq => hq.elim) fun q hq => hq.elim
  have hwrite : ∀ context, (Work.change context fun d => d.write (pathIn dir) m.toText).Touches
      [Manifest.pathIn dir] [] := fun context => .change fun d d' h =>
    (Disk.write_moves h).mono (fun q hq => ⟨_, List.mem_singleton_self _, hq⟩) fun q hq => hq.elim
  unfold Manifest.save
  dsimp only
  split
  · exact .bind .error fun _ => .bind (hdirs _) fun _ => hwrite _
  · exact .bind (hdirs _) fun _ => hwrite _

/-- After a removal that succeeds, nothing is left where the name leads. -/
theorem not_hasFile_removeArtifact {name : String}
    (h : (removeArtifact dir name).outcome d = (.ok (), d'))
    (hq : d.locate (joinPaths dir name) = .ok q) : ¬ d'.HasFile q := by
  unfold removeArtifact at h
  dsimp only at h
  rw [Work.look_bind] at h
  split at h
  · exact Disk.not_hasFile_removeFile (Work.change_ok h) hq
  · rename_i hthere
    cases h
    exact fun hfile => hthere (Disk.contains_of_hasFile hq hfile)

theorem artifacts_touches (as : List Artifact) (dir : String) :
    (as.forM fun a => a.save dir).Touches (as.map fun a => joinPaths dir a.name) [] :=
  .forM fun a ha => (a.save_touches dir).mono (fun path hpath => by
    rw [List.mem_singleton.1 hpath]
    exact List.mem_map_of_mem ha) fun _ h => h

theorem removed_touches (names : List String) (dir : String) :
    (names.forM (removeArtifact dir)).Touches [] (names.map (joinPaths dir)) :=
  .forM fun n hn => (removeArtifact_touches dir n).mono (fun _ h => h) fun path hpath => by
    rw [List.mem_singleton.1 hpath]
    exact List.mem_map_of_mem hn

theorem not_hasFile_removed {names : List String}
    (h : (names.forM (removeArtifact dir)).outcome d = (.ok (), d')) {name : String}
    (hname : name ∈ names) (hq : d.locate (joinPaths dir name) = .ok q) : ¬ d'.HasFile q := by
  obtain ⟨before, after, rfl⟩ := List.append_of_mem hname
  obtain ⟨d₁, d₂, hbefore, hstep, hafter⟩ := Work.forM_ok_cons h
  have hq₁ := (removed_touches before dir d _ d₁ hbefore).later.locate hq
  intro hfile
  rcases (removed_touches after dir d₂ _ d' hafter).origin q hfile with hfile | ⟨path, hpath, -⟩
  · exact not_hasFile_removeArtifact hstep hq₁ hfile
  · cases hpath

namespace Run

variable {r : Run} {crateName extension : String}

/-- The names of the files that the save of a run writes. -/
def outputs (r : Run) : List String := r.artifacts.map (·.name) ++ [Manifest.fileName]

theorem name_mem_outputs {a : Artifact} (h : a ∈ r.artifacts) : a.name ∈ r.outputs :=
  List.mem_append_left _ (List.mem_map_of_mem h)

theorem fileName_mem_outputs : Manifest.fileName ∈ r.outputs :=
  List.mem_append_right _ (List.mem_singleton_self _)

theorem marker_mem_outputs : r.marker.name ∈ r.outputs :=
  name_mem_outputs (List.mem_cons_self ..)

theorem generated_mem_outputs {x : Generated} (hx : x ∈ r.generated) : x.artifact.name ∈ r.outputs :=
  name_mem_outputs (mem_artifacts hx)

/-- The outputs of a run: its artifacts, the marker's file, and the manifest. -/
theorem mem_outputs {n : String} : n ∈ r.outputs ↔
    (∃ x ∈ r.generated, x.artifact.name = n) ∨ r.marker.name = n ∨ n = Manifest.fileName := by
  unfold outputs artifacts
  simp only [List.map_cons, List.map_map, List.mem_append, List.mem_cons, List.mem_map,
    Function.comp_apply, List.not_mem_nil, or_false, eq_comm (a := n), or_assoc, or_left_comm]

/-- The place is that of an output of the run. -/
def Puts (r : Run) (d : Disk) (dir : String) (q : List String) : Prop :=
  ∃ n ∈ r.outputs, d.locate (joinPaths dir n) = .ok q

/-- The place is that of a name that the run has removed. -/
def Drops (r : Run) (d : Disk) (dir : String) (q : List String) : Prop :=
  ∃ n ∈ r.removed, d.locate (joinPaths dir n) = .ok q

theorem save_touches (r : Run) (crateName extension dir : String) :
    (r.save crateName extension dir).Touches (r.outputs.map (joinPaths dir))
      (r.removed.map (joinPaths dir)) := by
  unfold save
  refine .bind (.change fun d d' h => ?_) fun _ => .bind ?_ fun _ => .bind ?_ fun _ => ?_
  · exact (Disk.makeDirs_moves h).mono (fun q hq => hq.elim) fun q hq => hq.elim
  · refine (artifacts_touches r.artifacts dir).mono (fun path hpath => ?_) fun _ h => nomatch h
    obtain ⟨a, ha, rfl⟩ := List.mem_map.1 hpath
    exact List.mem_map_of_mem (name_mem_outputs ha)
  · exact (removed_touches r.removed dir).mono (fun _ h => nomatch h) fun _ h => h
  · refine ((r.manifest crateName extension).save_touches dir).mono (fun path hpath => ?_)
      fun _ h => nomatch h
    rw [List.mem_singleton.1 hpath]
    exact List.mem_map_of_mem fileName_mem_outputs

/-- The files that a save moves, however far it comes. -/
theorem save_moves {res : Except Failure Unit}
    (h : (r.save crateName extension dir).outcome d = (res, d')) :
    d.Moves d' (r.Puts d' dir) (r.Drops d' dir) := by
  refine (r.save_touches crateName extension dir d res d' h).mono ?_ ?_
  · rintro q ⟨path, hpath, hq⟩
    obtain ⟨n, hn, rfl⟩ := List.mem_map.1 hpath
    exact ⟨n, hn, hq⟩
  · rintro q ⟨path, hpath, hq⟩
    obtain ⟨n, hn, rfl⟩ := List.mem_map.1 hpath
    exact ⟨n, hn, hq⟩

/-- What a save that succeeds does to the files of a disk. -/
structure Saved (r : Run) (dir : String) (d d' : Disk) : Prop where
  moves : d.Moves d' (r.Puts d' dir) (r.Drops d' dir)
  /-- All outputs are found, and files unless the run has removed something in their places. -/
  found : ∀ n ∈ r.outputs, ∃ q, d'.locate (joinPaths dir n) = .ok q ∧
    (d'.HasFile q ∨ r.Drops d' dir q)
  manifest : ∃ q, d'.locate (Manifest.pathIn dir) = .ok q ∧ d'.HasFile q
  /-- What the run has removed is gone, unless the manifest has its place. -/
  gone : ∀ q, r.Drops d dir q → d'.HasFile q → d'.locate (Manifest.pathIn dir) = .ok q
  /-- What is found in the place of an artifact is a text. -/
  legible : ∀ a ∈ r.artifacts, ∀ q, d'.locate (joinPaths dir a.name) = .ok q → d'.Legible q

/-- After its step, the file of an artifact holds its text; the rest of the save moves no other files than
the whole does. -/
theorem save_step (h : (r.save crateName extension dir).outcome d = (.ok (), d')) {a : Artifact}
    (ha : a ∈ r.artifacts) : ∃ d₁ : Disk, d₁.readText (joinPaths dir a.name) = .ok a.text ∧
      d₁.Moves d' (r.Puts d' dir) (r.Drops d' dir) := by
  obtain ⟨d₁, d₂, d₃, -, hartifacts, hremoved, hmanifest⟩ := save_steps h
  obtain ⟨before, after, heq⟩ := List.append_of_mem ha
  rw [heq] at hartifacts
  obtain ⟨d₄, d₅, -, hstep, hafter⟩ := Work.forM_ok_cons hartifacts
  have hafter := artifacts_touches after dir d₅ _ d₂ hafter
  have hdropped := removed_touches r.removed dir d₂ _ d₃ hremoved
  have hlast := (r.manifest crateName extension).save_touches dir d₃ _ d' hmanifest
  refine ⟨d₅, (Artifact.save_ok hstep).2, (hafter.trans (hdropped.trans hlast)).mono ?_ ?_⟩
  · rintro q (⟨path, hpath, hq⟩ | ⟨path, hpath, -⟩ | ⟨path, hpath, hq⟩)
    · obtain ⟨b, hb, rfl⟩ := List.mem_map.1 hpath
      have hb' : b ∈ r.artifacts := heq ▸ List.mem_append_right _ (List.mem_cons_of_mem a hb)
      exact ⟨_, name_mem_outputs hb', (hdropped.later.trans hlast.later).locate hq⟩
    · cases hpath
    · rw [List.mem_singleton.1 hpath] at hq
      exact ⟨_, fileName_mem_outputs, hq⟩
  · rintro q (⟨path, hpath, -⟩ | ⟨path, hpath, hq⟩ | ⟨path, hpath, -⟩)
    · cases hpath
    · obtain ⟨n, hn, rfl⟩ := List.mem_map.1 hpath
      exact ⟨n, hn, hlast.later.locate hq⟩
    · cases hpath

theorem save_ok (h : (r.save crateName extension dir).outcome d = (.ok (), d')) :
    r.Saved dir d d' := by
  have hfile := Disk.hasFile_of_readText (save_manifest h)
  refine ⟨save_moves h, ?_, hfile, ?_, ?_⟩
  · intro n hn
    rcases List.mem_append.1 hn with hn | hn
    · obtain ⟨a, ha, rfl⟩ := List.mem_map.1 hn
      obtain ⟨d₁, htext, hmoves⟩ := save_step h ha
      obtain ⟨q, hq, hfile⟩ := Disk.hasFile_of_readText htext
      exact ⟨q, hmoves.later.locate hq, hmoves.fate q hfile⟩
    · rw [List.mem_singleton.1 hn]
      obtain ⟨q, hq, hfile⟩ := hfile
      exact ⟨q, hq, .inl hfile⟩
  · rintro q ⟨n, hn, hq⟩ hfile
    obtain ⟨d₁, d₂, d₃, hdirs, hartifacts, hremoved, hmanifest⟩ := save_steps h
    have hbefore := (Disk.makeDirs_moves hdirs).later.trans
      (artifacts_touches r.artifacts dir d₁ _ d₂ hartifacts).later
    have hlast := (r.manifest crateName extension).save_touches dir d₃ _ d' hmanifest
    rcases hlast.origin q hfile with hfile | ⟨path, hpath, hq⟩
    · exact absurd hfile (not_hasFile_removed hremoved hn (hbefore.locate hq))
    · rwa [List.mem_singleton.1 hpath] at hq
  · intro a ha q hq
    obtain ⟨d₁, htext, hmoves⟩ := save_step h ha
    obtain ⟨q', hq', -⟩ := Disk.hasFile_of_readText htext
    rw [hmoves.later.locate hq'] at hq
    cases hq
    exact hmoves.legible q (Disk.legible_of_readText hq' htext)

end Run

end DisplayGen
