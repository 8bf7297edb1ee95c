import DisplayGen.Proofs.Generator.Apart
import DisplayGen.Proofs.Project

/-!
# What a pass leaves on the disk

`Session.Standing p s`: a session of the project `p` as it is at some time, in a directory whose manifests
are all from such sessions. Sources and files may change at any time, passes may fail, and several sessions
may be open.

* `Standing.belongs`: all that the cache of such a session holds is for types of the crate.
* `Standing.pass_stored`: after a pass that gives a result, the disk is what the run says, and all else is as
  it was (`Run.Stored`). Only the marker's file may be missing, where the path of the marker has slashes.
-/

namespace DisplayGen

/-- The disk after a pass is what the run says: its artifacts, the marker's file and the manifest are there,
what it has removed is gone, and nothing else has changed. -/
structure Run.Stored (r : Run) (p : Project) (d d' : Disk) : Prop where
  texts : ∀ x ∈ r.generated, d'.textIn p.outputDir x.artifact.name = some x.artifact.text
  /-- The marker's file holds its text, unless the name of a type leads to the same place. -/
  marker_or : d'.textIn p.outputDir r.marker.name = some r.marker.text ∨ ∃ n ∈ r.typeNames,
    d'.SamePlace (joinPaths p.outputDir r.marker.name) (joinPaths p.outputDir n)
  marker : Unslashed p.config.markerPath →
    d'.textIn p.outputDir r.marker.name = some r.marker.text
  removed : ∀ n ∈ r.removed, d'.contains (joinPaths p.outputDir n) = false
  manifest : ∃ m, Manifest.load? d' p.outputDir = .ok (some m) ∧ m.crateName = p.crateName ∧
    m.markerArtifact = some r.marker.name ∧
    m.entries.Perm (r.summaries.map fun s => s.toEntry p.config.artifactExtension) ∧
    m.entries.Pairwise fun e e' => e.artifactName < e'.artifactName
  /-- At all other places stands what stood there, but the output directory and those above it may have
  been made. -/
  others : ∀ q, (∃ n ∈ r.outputs ++ r.removed, d'.locate (joinPaths p.outputDir n) = .ok q) ∨
    d'.node? q = d.node? q ∨
    d.node? q = none ∧ d'.node? q = some .directory ∧ Disk.LeadsThrough d.root p.outputDir q

namespace Session

variable {p : Project} {d : Disk} {s : Session} {r : Run}

/-- The sessions of a project, as they are opened and as passes leave them, where none but they have written
manifests: each was opened on a directory without a manifest, or on the record of a run that a pass of
another one has made. -/
inductive Standing (p : Project) : Session → Prop where
  | opened {d : Disk} {s : Session} (hnone : d.contains (Manifest.pathIn p.outputDir) = false)
      (h : start d p = .ok s) : Standing p s
  | reopened {s₁ s : Session} {d₁ d : Disk} {r : Run} (h₁ : Standing p s₁)
      (hr : s₁.generates d₁ = some r) (hrecord : d.textIn p.outputDir Manifest.fileName =
        some (r.manifest p.crateName p.config.artifactExtension).toText)
      (h : start d p = .ok s) : Standing p s
  | pass {s : Session} (h : Standing p s) (d : Disk) : Standing p (s.pass d).session

/-- A pass that gives a result has saved its run with the settings of the project. -/
theorem IsOf.saved (h : IsOf p s) (hr : (s.pass d).result = .ok r) :
    (r.save p.crateName p.config.artifactExtension p.outputDir).outcome d =
      (.ok (), (s.pass d).disk) := by
  obtain ⟨c, -, -, -, hsave⟩ := pass_ok hr
  rwa [h.project] at hsave

theorem IsOf.record (h : IsOf p s) (hr : (s.pass d).result = .ok r) :
    (s.pass d).disk.textIn p.outputDir Manifest.fileName =
      some (r.manifest p.crateName p.config.artifactExtension).toText :=
  congrArg Except.toOption (Run.save_manifest (h.saved hr))

/-- If the cache of a session holds types of the crate only, all names of a run do. -/
theorem IsOf.keyed (h : IsOf p s) (hword : Text.isWord p.crateName.toList = true)
    (hcache : ∀ y ∈ s.generator.cache.entries, y.summary.Belongs p.crateName s.generator.marker)
    (hr : s.generates d = some r) :
    r.Keyed p.crateName p.config.artifactExtension s.generator.marker := by
  obtain ⟨c, -, hload, hrun, -, -⟩ := generates_eq_some hr
  rw [h.project] at hload
  rw [← h.extension]
  exact Generator.keyed_run hrun h.named hcache (Project.run_belongs h.marker hword hload hrun)

namespace Standing

theorem isOf (h : Standing p s) : IsOf p s := by
  induction h with
  | opened _ h => exact .start h
  | reopened _ _ _ h _ => exact .start h
  | pass _ d ih => exact ih.pass d

/-- The cache holds types of the crate only. -/
theorem belongs (h : Standing p s) (hword : Text.isWord p.crateName.toList = true) :
    ∀ y ∈ s.generator.cache.entries, y.summary.Belongs p.crateName s.generator.marker := by
  -- a run that fails leaves the cache, any other puts its own generation there, and so does its record
  induction h with
  | @opened d s hnone h =>
    have hempty := (Generator.consistent_create (start_none (Disk.textIn_eq_none hnone) h)).cache
    rw [hempty]
    exact fun y hy => nomatch hy
  | @reopened s₁ s d₁ d r h₁ hr hrecord h ih =>
    have hmarker : s.generator.marker = s₁.generator.marker :=
      Except.ok.inj ((IsOf.start h).marker.symm.trans h₁.isOf.marker)
    obtain ⟨g, hempty, -, hg⟩ := start_recorded hrecord h
    rw [hmarker, hg]
    intro y hy
    obtain ⟨-, x, hx, hsummary⟩ :=
      Generator.mem_recorded_manifest (Generator.mem_of_mem_seed hempty hy)
    exact hsummary ▸ (h₁.isOf.keyed hword ih hr).belongs x hx
  | @pass s h d ih =>
    cases hrun : s.generates d with
    | none =>
      rcases generates_eq_none hrun with hsession | ⟨c, e, hr, hsession⟩
      · rw [hsession]
        exact ih
      · obtain ⟨tally, hgenerator⟩ := Generator.run_error hr
        rw [hsession, hgenerator]
        exact ih
    | some r =>
      obtain ⟨c, -, -, hr, hsession, -⟩ := generates_eq_some hrun
      obtain ⟨hkeys, -, hcache⟩ := Generator.run_makes hr
      rw [hsession, hcache, Generator.run_marker]
      exact fun y hy => (h.isOf.keyed hword ih hrun).belongs y
        ((Cache.entries_ofList_perm hkeys).mem_iff.1 hy)

theorem keyed (h : Standing p s) (hword : Text.isWord p.crateName.toList = true)
    (hr : s.generates d = some r) :
    r.Keyed p.crateName p.config.artifactExtension s.generator.marker :=
  h.isOf.keyed hword (h.belongs hword) hr

/-- After a pass that gives a result, the files of the artifacts of types hold their texts. -/
theorem texts (h : Standing p s) (hword : Text.isWord p.crateName.toList = true)
    (hvalid : p.config.validate = .ok ()) (hr : (s.pass d).result = .ok r) : ∀ x ∈ r.generated,
    (s.pass d).disk.textIn p.outputDir x.artifact.name = some x.artifact.text :=
  fun x hx => congrArg Except.toOption ((h.keyed hword (generates_of_ok hr)).texts
    (Config.extension_of_validate hvalid) (h.isOf.saved hr) x hx)

/-- After a pass that gives a result, the disk is what the run says. -/
theorem pass_stored (h : Standing p s) (hword : Text.isWord p.crateName.toList = true)
    (hcrate : p.crateName ≠ "__strgen_marker") (hvalid : p.config.validate = .ok ())
    (hr : (s.pass d).result = .ok r) : r.Stored p d (s.pass d).disk := by
  have hextension := Config.extension_of_validate hvalid
  have hkeyed := h.keyed hword (generates_of_ok hr)
  have hsave := h.isOf.saved hr
  refine ⟨h.texts hword hvalid hr, (hkeyed.marker_text_or hsave).imp_left (congrArg Except.toOption),
    fun hpath => ?_, fun n hn => hkeyed.contains_removed hextension hsave hn, ?_, fun q => ?_⟩
  · have hmodule := Marker.unslashed_module h.isOf.marker hpath
    exact congrArg Except.toOption (hkeyed.marker_text hword hcrate hextension hmodule hsave)
  · exact ⟨_, Manifest.load?_eq_some.2 ⟨_, h.isOf.record hr, Manifest.read?_toText _⟩, rfl, rfl,
      Manifest.entries_sorted_perm _,
      Manifest.entries_sorted_pairwise (Generator.nodup_entryNames hkeyed.keys)⟩
  · rcases (Run.save_changes hsave).node q with hsame | htouched | ⟨⟨-, hleads⟩, hnone, hmade⟩
    · exact .inr (.inl hsame)
    · refine .inl ?_
      rcases htouched with ⟨a, ha, hq, -⟩ | ⟨n, hn, hq⟩ | hq
      · exact ⟨a.name, List.mem_append_left _ (Run.name_mem_outputs ha), hq⟩
      · exact ⟨n, List.mem_append_right _ hn, hq⟩
      · exact ⟨_, List.mem_append_left _ Run.fileName_mem_outputs, hq⟩
    · exact .inr (.inr ⟨hnone, hmade, hleads⟩)

/-- The first pass over a crate with one struct. -/
theorem pass_stored_first : ∃ (s : Session) (r : Run), Standing .oneStruct s ∧
    (s.pass .oneStruct).result = .ok r ∧ r.emitted = ["d.P.g.rs"] ∧
    r.Stored .oneStruct .oneStruct (s.pass .oneStruct).disk := by
  obtain ⟨r, -, -, hr, hemitted, -⟩ := of_passTwice? passTwice?_oneStruct
  have hstanding := Standing.opened (by decide +kernel) start_oneStruct
  exact ⟨_, r, hstanding, hr, hemitted,
    hstanding.pass_stored (by decide +kernel) (by decide) Project.validate_oneStruct hr⟩

end Standing

end Session

end DisplayGen
