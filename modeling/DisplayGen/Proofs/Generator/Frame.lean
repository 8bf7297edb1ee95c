import DisplayGen.Proofs.Disk.Frame
import DisplayGen.Proofs.Generator.Saved

/-!
# What a save leaves as it was

* `Run.save_changes`: a save touches the place of an artifact only if the artifact's text is not there
  already. Besides, it touches the places of names that the run has removed, and that of the manifest, and
  it makes the output directory.
* `Run.contains_removed`: after a save, nothing is found under the names that the run has removed.
* `Run.spared_of_owns`, `Run.node_of_texts`: a save leaves a file alone that has its text already, and all but
  the manifest if every file has.
-/

namespace DisplayGen

variable {d d' : Disk} {dir name : String} {q : List String}

theorem Artifact.save_changes {a : Artifact} (h : (a.save dir).outcome d = (.ok (), d')) :
    d.Changes d' (fun q => d'.locate (joinPaths dir a.name) = .ok q ∧ d.textAt q ≠ .ok a.text)
      fun _ => False := by
  unfold Artifact.save at h
  dsimp only at h
  rw [Work.look_bind] at h
  split at h
  · rename_i hother
    have hchanges := Disk.put_changes (Work.change_ok h)
    refine hchanges.mono (fun q hq => ⟨hq, fun htext => hother ?_⟩) fun _ h => h
    unfold Disk.readText
    rw [hchanges.locate_iff.1 hq]
    exact congrArg Except.toOption htext
  · cases h
    exact .refl _ _ _

/-- Artifacts that are saved one after the other touch only places where the text of one of them was not
before the first. -/
theorem artifacts_changes {as : List Artifact} (h : (as.forM fun a => a.save dir).outcome d = (.ok (), d')) :
    d.Changes d' (fun q => ∃ a ∈ as, d'.locate (joinPaths dir a.name) = .ok q ∧ d.textAt q ≠ .ok a.text)
      fun _ => False := by
  induction as generalizing d with
  | nil =>
    cases h
    exact .refl _ _ _
  | cons a as ih =>
    change (a.save dir >>= fun _ => as.forM fun a => a.save dir).outcome d = (.ok (), d') at h
    obtain ⟨u, d₁, hfirst, hrest⟩ := Work.bind_ok h
    have hfirst := Artifact.save_changes hfirst
    have hrest := ih hrest
    have hsecond : d₁.Changes d' (fun q => (∃ b ∈ a :: as, d'.locate (joinPaths dir b.name) = .ok q ∧
        d.textAt q ≠ .ok b.text)) fun _ => False := by
      refine ⟨hrest.later, hrest.directory, fun q => ?_⟩
      by_cases htouched : d₁.locate (joinPaths dir a.name) = .ok q ∧ d.textAt q ≠ .ok a.text
      · exact .inr (.inl ⟨a, List.mem_cons_self .., hrest.later.locate htouched.1, htouched.2⟩)
      · rcases hrest.node q with hsame | ⟨b, hb, hq, htext⟩ | hmade
        · exact .inl hsame
        · refine .inr (.inl ⟨b, List.mem_cons_of_mem a hb, hq, fun hbefore => htext ?_⟩)
          exact hfirst.textAt_of_not_touched htouched hbefore
        · exact .inr (.inr hmade)
    refine (hfirst.trans hsecond).mono (fun q hq => ?_) fun _ h => h.elim id id
    rcases hq with ⟨hq, htext⟩ | hq
    · exact ⟨a, List.mem_cons_self .., hrest.later.locate hq, htext⟩
    · exact hq

theorem removeArtifact_changes (h : (removeArtifact dir name).outcome d = (.ok (), d')) :
    d.Changes d' (fun q => d'.locate (joinPaths dir name) = .ok q) fun _ => False := by
  unfold removeArtifact at h
  dsimp only at h
  rw [Work.look_bind] at h
  split at h
  · exact Disk.removeFile_changes (Work.change_ok h)
  · cases h
    exact .refl _ _ _

/-- After a removal nothing is found under the name, and no more than before under others. -/
theorem contains_removeArtifact (h : (removeArtifact dir name).outcome d = (.ok (), d')) :
    d'.contains (joinPaths dir name) = false ∧
      ∀ path, d.contains path = false → d'.contains path = false := by
  unfold removeArtifact at h
  dsimp only at h
  rw [Work.look_bind] at h
  split at h
  · exact Disk.contains_removeFile (Work.change_ok h)
  · rename_i hnone
    cases h
    exact ⟨eq_false_of_ne_true hnone, fun _ h => h⟩

theorem removed_changes {names : List String}
    (h : (names.forM (removeArtifact dir)).outcome d = (.ok (), d')) :
    d.Changes d' (fun q => ∃ n ∈ names, d'.locate (joinPaths dir n) = .ok q) fun _ => False := by
  induction names generalizing d with
  | nil =>
    cases h
    exact .refl _ _ _
  | cons n names ih =>
    change (removeArtifact dir n >>= fun _ => names.forM (removeArtifact dir)).outcome d = (.ok (), d') at h
    obtain ⟨u, d₁, hfirst, hrest⟩ := Work.bind_ok h
    have hrest := ih hrest
    refine ((removeArtifact_changes hfirst).trans hrest).mono (fun q hq => ?_) fun _ h => h.elim id id
    rcases hq with hq | ⟨m, hm, hq⟩
    · exact ⟨n, List.mem_cons_self .., hrest.later.locate hq⟩
    · exact ⟨m, List.mem_cons_of_mem n hm, hq⟩

theorem contains_removed {names : List String}
    (h : (names.forM (removeArtifact dir)).outcome d = (.ok (), d')) :
    (∀ n ∈ names, d'.contains (joinPaths dir n) = false) ∧
      ∀ path, d.contains path = false → d'.contains path = false := by
  induction names generalizing d with
  | nil =>
    cases h
    exact ⟨fun n hn => (List.not_mem_nil hn).elim, fun _ h => h⟩
  | cons n names ih =>
    change (removeArtifact dir n >>= fun _ => names.forM (removeArtifact dir)).outcome d = (.ok (), d') at h
    obtain ⟨u, d₁, hfirst, hrest⟩ := Work.bind_ok h
    obtain ⟨hgone, hstays⟩ := contains_removeArtifact hfirst
    obtain ⟨hgone', hstays'⟩ := ih hrest
    exact ⟨List.forall_mem_cons.2 ⟨hstays' _ hgone, hgone'⟩, fun path hpath => hstays' _ (hstays _ hpath)⟩

/-- In a directory that is there, a manifest touches only its own place. -/
theorem Manifest.save_changes {m : Manifest} (hdir : d.HasDirectory dir)
    (h : (m.save dir).outcome d = (.ok (), d')) :
    d.Changes d' (fun q => d'.locate (Manifest.pathIn dir) = .ok q) fun _ => False := by
  unfold Manifest.save at h
  dsimp only at h
  split at h
  · obtain ⟨u, d₁, hthrow, -⟩ := Work.bind_ok h
    cases hthrow
  · obtain ⟨u, d₁, hdirs, hwrite⟩ := Work.bind_ok h
    have hdirs := Work.change_ok hdirs
    rw [Disk.makeDirs_of_hasDirectory hdir] at hdirs
    cases hdirs
    exact Disk.put_changes (Work.change_ok hwrite)

namespace Run

variable {r : Run} {crateName extension : String}

/-- An artifact of the run is put at the place whose text was not there. -/
def Rewrites (r : Run) (d d' : Disk) (dir : String) (q : List String) : Prop :=
  ∃ a ∈ r.artifacts, d'.locate (joinPaths dir a.name) = .ok q ∧ d.textAt q ≠ .ok a.text

/-- What a save touches and makes. -/
theorem save_changes (h : (r.save crateName extension dir).outcome d = (.ok (), d')) :
    d.Changes d' (fun q => r.Rewrites d d' dir q ∨ r.Drops d' dir q ∨
        d'.locate (Manifest.pathIn dir) = .ok q)
      fun q => ¬ d.HasDirectory dir ∧ Disk.LeadsThrough d.root dir q := by
  obtain ⟨d₁, d₂, d₃, hdirs, hartifacts, hremoved, hmanifest⟩ := save_steps h
  have hmade := Disk.makeDirs_changes hdirs
  have hput := artifacts_changes hartifacts
  have hdropped := removed_changes hremoved
  have hthere := (Disk.hasDirectory_makeDirs hdirs).later (hput.later.trans hdropped.later)
  have hlast := Manifest.save_changes hthere hmanifest
  refine (hmade.trans (hput.trans (hdropped.trans hlast))).mono (fun q hq => ?_) fun q hq => ?_
  · rcases hq with hnone | ⟨a, ha, hq, htext⟩ | ⟨n, hn, hq⟩ | hq
    · exact hnone.elim
    · refine .inl ⟨a, ha, (hdropped.later.trans hlast.later).locate hq, fun hbefore => htext ?_⟩
      exact hmade.textAt_of_not_touched not_false hbefore
    · exact .inr (.inl ⟨n, hn, hlast.later.locate hq⟩)
    · exact .inr (.inr hq)
  · rcases hq with hq | hnone | hnone | hnone
    · exact hq
    all_goals exact hnone.elim

/-- After a save nothing is found under a name that the run has removed, unless it leads to the manifest. -/
theorem contains_removed (h : (r.save crateName extension dir).outcome d = (.ok (), d'))
    (hname : name ∈ r.removed) (hplace : ∀ q, d'.locate (joinPaths dir name) = .ok q →
      d'.locate (Manifest.pathIn dir) ≠ .ok q) : d'.contains (joinPaths dir name) = false := by
  obtain ⟨d₁, d₂, d₃, hdirs, hartifacts, hremoved, hmanifest⟩ := save_steps h
  have hthere := (Disk.hasDirectory_makeDirs hdirs).later
    ((artifacts_changes hartifacts).later.trans (removed_changes hremoved).later)
  rw [(Manifest.save_changes hthere hmanifest).contains_eq hplace]
  exact (DisplayGen.contains_removed hremoved).1 name hname

/-- If the directory is there, all artifacts have their texts, and nothing is removed, a save touches no
place but that of the manifest. -/
theorem node_of_texts (h : (r.save crateName extension dir).outcome d = (.ok (), d'))
    (hthere : d.HasDirectory dir) (hremoved : r.removed = [])
    (htexts : ∀ a ∈ r.artifacts, d.readText (joinPaths dir a.name) = .ok a.text) {q : List String}
    (hq : d'.locate (Manifest.pathIn dir) ≠ .ok q) : d'.node? q = d.node? q := by
  have hchanges := save_changes h
  rcases hchanges.node q with heq | (⟨a, ha, hplace, hother⟩ | ⟨n, hn, -⟩ | hplace) | ⟨⟨hnone, -⟩, -⟩
  · exact heq
  · obtain ⟨q', written, hq', hnode⟩ := Disk.readText_ok.1 (htexts a ha)
    rw [hchanges.later.locate hq'] at hplace
    cases hplace
    refine absurd ?_ hother
    unfold Disk.textAt Disk.contentAt
    rw [hnode]
  · rw [hremoved] at hn
    cases hn
  · exact absurd hplace hq
  · exact absurd hthere hnone

/-- The file of an artifact is left alone if it holds the artifact's text already, and no other name of the
run leads to it. -/
theorem spared_of_owns (h : (r.save crateName extension dir).outcome d = (.ok (), d'))
    (hnames : (r.artifacts.map (·.name)).Nodup) {a : Artifact} (ha : a ∈ r.artifacts)
    (howns : r.Owns d' dir a.name) (hremoved : a.name ∉ r.removed) (hfile : a.name ≠ Manifest.fileName)
    (htext : d.readText (joinPaths dir a.name) = .ok a.text) : d.Spares d' (joinPaths dir a.name) := by
  have hchanges := save_changes h
  obtain ⟨q, written, hq, hnode⟩ := Disk.readText_ok.1 htext
  have hq' := hchanges.later.locate hq
  have htext' : d.textAt q = .ok a.text := by
    unfold Disk.textAt Disk.contentAt
    rw [hnode]
  -- whatever else leads there has the name of the artifact
  have hsame : ∀ n ∈ r.files, d'.locate (joinPaths dir n) = .ok q → a.name = n :=
    fun n hn hplace => howns n hn ⟨q, Disk.ne_nil_of_file hnode, hq', hplace⟩
  have huntouched : ¬ (r.Rewrites d d' dir q ∨ r.Drops d' dir q ∨
      d'.locate (Manifest.pathIn dir) = .ok q) := by
    rintro (⟨b, hb, hplace, hother⟩ | ⟨n, hn, hplace⟩ | hplace)
    · obtain rfl := List.inj_on_of_nodup_map hnames ha hb (hsame _ (name_mem_files hb) hplace)
      exact hother htext'
    · have hmem : n ∈ r.files := List.mem_append_left _ (List.mem_append_right _ hn)
      exact hremoved (hsame n hmem hplace ▸ hn)
    · exact hfile (hsame _ (List.mem_append_right _ (List.mem_singleton_self _)) hplace)
  refine ⟨q, hq, hq', ⟨_, written, hnode⟩, ?_⟩
  rw [hnode]
  exact hchanges.node_of_not_touched huntouched hnode

end Run

end DisplayGen
