import DisplayGen.Generator.Stored
import DisplayGen.Proofs.Disk.Path
import DisplayGen.Proofs.Disk.Work
import DisplayGen.Proofs.Except
import DisplayGen.Proofs.Generator.Run

/-!
# What a save leaves on the disk

A save writes and removes one file after the other. What it has written stays, unless a later step
comes to the same place by another name: `Run.Apart` says that no two names of a run do that, as no
two plain names ever do (`Run.apart_of_plain`).

* `Run.save_texts`: after a save the file of each artifact holds the artifact's text.
* `Run.save_manifest`: and the manifest is the record of the run.
-/

namespace DisplayGen

variable {d d' : Disk} {dir : String}

/-- Two paths lead to one place below the root. -/
def Disk.SamePlace (d : Disk) (path path' : String) : Prop :=
  ∃ place, place ≠ [] ∧ d.locate path = .ok place ∧ d.locate path' = .ok place

theorem Disk.SamePlace.later {path path' : String} (h : d.SamePlace path path') (hd : d.Later d') :
    d'.SamePlace path path' := by
  obtain ⟨place, hne, hp, hp'⟩ := h
  exact ⟨place, hne, hd.locate hp, hd.locate hp'⟩

theorem Disk.ne_nil_of_file {d : Disk} {place : List String} {content : FileContent}
    {written : Bool} (h : d.node? place = some (.file content written)) : place ≠ [] := by
  rintro rfl
  cases h

/-- A text that was there is still there, unless a later step came to its place. -/
theorem Disk.Leaves.readText_or {α : Type} {as : List α} {path : α → String}
    (h : d.Leaves d' fun place => ∀ a ∈ as, d'.locate (path a) ≠ .ok place) {file text : String}
    (htext : d.readText file = .ok text) :
    d'.readText file = .ok text ∨ ∃ a ∈ as, d'.SamePlace file (path a) := by
  obtain ⟨place, written, hlocate, hnode⟩ := Disk.readText_ok.1 htext
  have hlocate' := h.later.locate hlocate
  by_cases hclash : ∃ a ∈ as, d'.locate (path a) = .ok place
  · obtain ⟨a, ha, hplace⟩ := hclash
    exact .inr ⟨a, ha, place, Disk.ne_nil_of_file hnode, hlocate', hplace⟩
  · refine .inl (Disk.readText_ok.2 ⟨place, written, hlocate', h.files _ _ _ ?_ hnode⟩)
    exact fun a ha heq => hclash ⟨a, ha, heq⟩

theorem Artifact.save_ok {a : Artifact} (h : (a.save dir).outcome d = (.ok (), d')) :
    (d.Leaves d' fun place => d'.locate (joinPaths dir a.name) ≠ .ok place) ∧
      d'.readText (joinPaths dir a.name) = .ok a.text := by
  unfold Artifact.save at h
  dsimp only at h
  rw [Work.look_bind] at h
  split at h
  · have hwrite := Work.change_ok h
    exact ⟨Disk.put_leaves hwrite, Disk.readText_write hwrite⟩
  · rename_i hsame
    cases h
    exact ⟨Disk.Leaves.refl _ _, toOption_eq_some (not_not.1 hsame)⟩

theorem removeArtifact_leaves {name : String} (h : (removeArtifact dir name).outcome d = (.ok (), d')) :
    d.Leaves d' fun place => d'.locate (joinPaths dir name) ≠ .ok place := by
  unfold removeArtifact at h
  dsimp only at h
  rw [Work.look_bind] at h
  split at h
  · exact Disk.removeFile_leaves (Work.change_ok h)
  · cases h
    exact Disk.Leaves.refl _ _

theorem Manifest.save_ok {m : Manifest} (h : (m.save dir).outcome d = (.ok (), d')) :
    (d.Leaves d' fun place => d'.locate (Manifest.pathIn dir) ≠ .ok place) ∧
      d'.readText (Manifest.pathIn dir) = .ok m.toText := by
  unfold Manifest.save at h
  dsimp only at h
  split at h
  · obtain ⟨u, d₁, hthrow, -⟩ := Work.bind_ok h
    cases hthrow
  · obtain ⟨u, d₁, hdirs, hwrite⟩ := Work.bind_ok h
    have hdirs := Disk.makeDirs_leaves (Work.change_ok hdirs)
    have hwrite := Work.change_ok hwrite
    exact ⟨(hdirs.trans (Disk.put_leaves hwrite)).mono fun _ h => ⟨trivial, h⟩,
      Disk.readText_write hwrite⟩

/-- An artifact never has the name of the manifest: there are more points in its name. -/
theorem Summary.artifactName_ne_fileName (s : Summary) (extension : String) :
    s.artifactName extension ≠ Manifest.fileName := by
  intro h
  have hcount := congrArg (fun name => name.toList.count '.') h
  unfold artifactName key at hcount
  simp only [String.toList_append, List.count_append] at hcount
  have hdot : ".".toList.count '.' = 1 := by decide
  have hinfix : ".g.".toList.count '.' = 2 := by decide
  have hfile : Manifest.fileName.toList.count '.' = 1 := by decide
  omega

namespace Run

variable {r : Run} {crateName extension : String}

theorem mem_artifacts {x : Generated} (hx : x ∈ r.generated) : x.artifact ∈ r.artifacts :=
  List.mem_cons_of_mem _ (List.mem_map_of_mem hx)

/-- The names of the files that the save of a run writes or removes, in order. -/
def files (r : Run) : List String := r.artifacts.map (·.name) ++ r.removed ++ [Manifest.fileName]

theorem name_mem_files {a : Artifact} (ha : a ∈ r.artifacts) : a.name ∈ r.files :=
  List.mem_append_left _ (List.mem_append_left _ (List.mem_map_of_mem ha))

/-- No other name of the run leads to the place of the name. -/
def Owns (r : Run) (d : Disk) (dir name : String) : Prop :=
  ∀ n ∈ r.files, d.SamePlace (joinPaths dir name) (joinPaths dir n) → name = n

/-- No two names of the run lead to one place. -/
def Apart (r : Run) (d : Disk) (dir : String) : Prop :=
  ∀ m ∈ r.files, ∀ n ∈ r.files, d.SamePlace (joinPaths dir m) (joinPaths dir n) → m = n

/-- Plain names never lead to one place. -/
theorem apart_of_plain (h : ∀ n ∈ r.files, IsPlainName n) (d : Disk) (dir : String) :
    r.Apart d dir := by
  rintro m hm n hn ⟨place, hplace, hm', hn'⟩
  have hlast := Disk.locate_joinPaths (h m hm) hm' hplace
  rw [Disk.locate_joinPaths (h n hn) hn' hplace] at hlast
  exact (Option.some.inj hlast).symm

/-- The steps of a save, one after the other. -/
theorem save_steps (h : (r.save crateName extension dir).outcome d = (.ok (), d')) :
    ∃ d₁ d₂ d₃, d.makeDirs dir = .ok d₁ ∧
      (r.artifacts.forM fun a => a.save dir).outcome d₁ = (.ok (), d₂) ∧
      (r.removed.forM (removeArtifact dir)).outcome d₂ = (.ok (), d₃) ∧
      ((r.manifest crateName extension).save dir).outcome d₃ = (.ok (), d') := by
  unfold save at h
  obtain ⟨_, d₁, hdirs, h⟩ := Work.bind_ok h
  obtain ⟨_, d₂, hartifacts, h⟩ := Work.bind_ok h
  obtain ⟨_, d₃, hremoved, hmanifest⟩ := Work.bind_ok h
  exact ⟨d₁, d₂, d₃, Work.change_ok hdirs, hartifacts, hremoved, hmanifest⟩

/-- After a save the manifest is the record of the run. -/
theorem save_manifest (h : (r.save crateName extension dir).outcome d = (.ok (), d')) :
    d'.readText (Manifest.pathIn dir) = .ok (r.manifest crateName extension).toText := by
  obtain ⟨_, _, _, -, -, -, hmanifest⟩ := save_steps h
  exact (Manifest.save_ok hmanifest).2

/-- After a save the file of an artifact holds its text, if nothing that comes later in the save leads to
its place. -/
theorem save_text (h : (r.save crateName extension dir).outcome d = (.ok (), d'))
    {before after : List Artifact} {a : Artifact} (heq : r.artifacts = before ++ a :: after)
    (hafter : ∀ b ∈ after, ¬ d'.SamePlace (joinPaths dir a.name) (joinPaths dir b.name))
    (hremoved : ∀ n ∈ r.removed, ¬ d'.SamePlace (joinPaths dir a.name) (joinPaths dir n))
    (hfile : ¬ d'.SamePlace (joinPaths dir a.name) (Manifest.pathIn dir)) :
    d'.readText (joinPaths dir a.name) = .ok a.text := by
  obtain ⟨d₁, d₂, d₃, -, hartifacts, hremove, hmanifest⟩ := save_steps h
  rw [heq] at hartifacts
  obtain ⟨d₄, d₅, -, hstep, hrest⟩ := Work.forM_ok_cons hartifacts
  have hwritten := Work.forM_leaves (fun _ _ _ h => (Artifact.save_ok h).1) hrest
  have hleft := Work.forM_leaves (fun _ _ _ h => removeArtifact_leaves h) hremove
  have hend : d₃.Leaves d' fun place => ∀ n ∈ [Manifest.fileName],
      d'.locate (joinPaths dir n) ≠ .ok place :=
    (Manifest.save_ok hmanifest).1.mono fun _ h => h Manifest.fileName (List.mem_singleton_self _)
  obtain htext | ⟨b, hb, hplace⟩ := hwritten.readText_or (Artifact.save_ok hstep).2
  · obtain htext | ⟨n, hn, hplace⟩ := hleft.readText_or htext
    · obtain htext | ⟨n, hn, hplace⟩ := hend.readText_or htext
      · exact htext
      · rw [List.mem_singleton.1 hn] at hplace
        exact absurd hplace hfile
    · exact absurd (hplace.later hend.later) (hremoved n hn)
  · exact absurd (hplace.later (hleft.later.trans hend.later)) (hafter b hb)

/-- After a save the file of an artifact holds its text, if no other name of the run leads there. -/
theorem save_texts (h : (r.save crateName extension dir).outcome d = (.ok (), d'))
    (hnames : (r.artifacts.map (·.name)).Nodup) {a : Artifact} (ha : a ∈ r.artifacts)
    (howns : r.Owns d' dir a.name) (hremoved : a.name ∉ r.removed) (hfile : a.name ≠ Manifest.fileName) :
    d'.readText (joinPaths dir a.name) = .ok a.text := by
  obtain ⟨before, after, heq⟩ := List.append_of_mem ha
  refine save_text h heq (fun b hb hplace => ?_) (fun n hn hplace => ?_) fun hplace => ?_
  · have hb' : b ∈ r.artifacts := by
      rw [heq]
      exact List.mem_append_right _ (List.mem_cons_of_mem a hb)
    have hname := howns _ (name_mem_files hb') hplace
    rw [heq, List.map_append, List.map_cons] at hnames
    have hlater := (List.nodup_cons.1 (List.nodup_append.1 hnames).2.1).1
    exact hlater (hname ▸ List.mem_map_of_mem hb)
  · have hmem : n ∈ r.files := List.mem_append_left _ (List.mem_append_right _ hn)
    exact hremoved (howns n hmem hplace ▸ hn)
  · exact hfile (howns _ (List.mem_append_right _ (List.mem_singleton_self _)) hplace)

end Run

/-- The artifacts of a run have distinct names, the marker's included. -/
theorem Generator.nodup_artifactNames {g : Generator} {c : Crate} {r : Run}
    (hr : (g.run c).result = .ok r) : (r.artifacts.map (·.name)).Nodup := by
  obtain ⟨marked, p, hsteps⟩ := Generator.run_ok hr
  have hnames := hsteps.names
  rwa [Run.artifacts, List.map_cons, List.map_map]

end DisplayGen
