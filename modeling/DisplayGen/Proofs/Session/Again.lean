import DisplayGen.Proofs.Session.Standing

/-!
# Two passes, one after the other

Between two passes that give results the sources change, and the files of the first run keep their texts. The
second pass is made by the same session, or by one that is opened again.

* `Session.Primed`: before the second pass the cache holds all that the first run has generated and whose
  texts the disk holds, and nothing else. Both sessions come to that: `primed_pass`, `primed_start`.
* `Session.pass_again`: so the second pass takes over what has kept its summary, and leaves its file alone as
  long as no other name leads to it (`Run.SparesOf`). In directories where only sessions of the project have
  written manifests no other name does (`Run.Tidy`), unless the crate is named as markers' files begin, or the
  marker's path has slashes.
-/

namespace DisplayGen

namespace Run

/-- The files of all artifacts of the run, the marker's included, hold their texts. -/
def Whole (r : Run) (d : Disk) (dir : String) : Prop :=
  ∀ a ∈ r.artifacts, d.textIn dir a.name = some a.text

/-- No two names of the run lead to one place, and the marker's file is none of those that it has removed. -/
structure Tidy (r : Run) (d : Disk) (dir : String) : Prop where
  apart : r.Apart d dir
  marker : r.marker.name ∉ r.removed

/-- What a run leaves alone, from the disk `d` to the disk `d'`, of what an earlier one has put there. -/
structure SparesOf (r : Run) (earlier : Run) (dir : String) (d d' : Disk) : Prop where
  /-- What has kept its summary is taken over, if its file holds its text. The file is left alone, if no other
  name leads to it. -/
  types : ∀ x ∈ r.generated, ∀ y ∈ earlier.generated, x.summary = y.summary →
    d.textIn dir y.artifact.name = some y.artifact.text → x.artifact.name ∈ r.reused ∧
      (r.Owns d' dir x.artifact.name → d.Spares d' (joinPaths dir x.artifact.name))
  /-- So is the marker's, unless it has the name of an artifact whose type is gone. -/
  marker : d.textIn dir earlier.marker.name = some earlier.marker.text → r.marker.name ∉ r.removed →
    r.Owns d' dir r.marker.name → d.Spares d' (joinPaths dir r.marker.name)
  /-- If all summaries are the same, nothing is written but the manifest, which gets the text that it had. -/
  same : earlier.Whole d dir → r.summaries.Perm earlier.summaries → r.emitted = [] ∧ r.removed = [] ∧
    d'.textIn dir Manifest.fileName = d.textIn dir Manifest.fileName ∧
    ∀ q, d'.locate (Manifest.pathIn dir) ≠ .ok q → d'.node? q = d.node? q

end Run

namespace Session

variable {p : Project} {d d' : Disk} {s s' : Session} {r r' : Run}

theorem IsOf.marker_eq (h : IsOf p s) (h' : IsOf p s') : s.generator.marker = s'.generator.marker :=
  Except.ok.inj (h.marker.symm.trans h'.marker)

/-- The names of the artifacts of a pass, the marker's included: none is that of the manifest, and none of a
type is one that the run has removed. -/
theorem IsOf.artifact_names (h : IsOf p s) (hr : s.generates d = some r) :
    (r.artifacts.map (·.name)).Nodup ∧ (∀ a ∈ r.artifacts, a.name ≠ Manifest.fileName) ∧
      ∀ x ∈ r.generated, x.artifact.name ∉ r.removed := by
  obtain ⟨c, -, -, hrun, -, -⟩ := generates_eq_some hr
  refine ⟨Generator.nodup_artifactNames hrun, List.forall_mem_cons.2 ⟨?_, ?_⟩,
    fun x hx => h.named.not_mem_removed hrun hx⟩
  · rw [Generator.run_marker_name hrun]
    exact Summary.markerName_ne_fileName _
  · intro a ha
    obtain ⟨x, hx, rfl⟩ := List.mem_map.1 ha
    rw [((Generator.run_makes hrun).2.1 x hx).name_eq h.named]
    exact x.summary.artifactName_ne_fileName _

/-- After a pass, the file of an artifact holds its text if no other name leads to it. -/
theorem IsOf.text_of_owns (h : IsOf p s) (hr : (s.pass d).result = .ok r) {a : Artifact}
    (ha : a ∈ r.artifacts) (hremoved : a.name ∉ r.removed)
    (howns : r.Owns (s.pass d).disk p.outputDir a.name) :
    (s.pass d).disk.textIn p.outputDir a.name = some a.text := by
  obtain ⟨hnames, hfile, -⟩ := h.artifact_names (generates_of_ok hr)
  exact congrArg Except.toOption (Run.save_texts (h.saved hr) hnames ha howns hremoved (hfile a ha))

/-- The session holds what the run has generated and whose text is on the disk, and nothing else. -/
structure Primed (p : Project) (s : Session) (r : Run) (d : Disk) : Prop where
  isOf : IsOf p s
  marker : s.generator.marker.definition = .ok r.marker
  record : d.textIn p.outputDir Manifest.fileName =
    some (r.manifest p.crateName p.config.artifactExtension).toText
  holds : ∀ y ∈ r.generated, d.textIn p.outputDir y.artifact.name = some y.artifact.text →
    ∃ a, s.generator.cache.lookup y.summary = some a ∧ d.textIn p.outputDir a.name = some a.text
  only : ∀ y ∈ s.generator.cache.entries, y.summary ∈ r.summaries

section

variable (h : IsOf p s) (hr : (s.pass d).result = .ok r)
  (hrecord : d'.textIn p.outputDir Manifest.fileName =
    some (r.manifest p.crateName p.config.artifactExtension).toText)

include h hr hrecord

/-- After a pass, its own session holds what it has generated. -/
theorem primed_pass : Primed p (s.pass d).session r d' := by
  obtain ⟨c, -, hrun, hsession, -⟩ := pass_ok hr
  obtain ⟨hkeys, -, hcache⟩ := Generator.run_makes hrun
  obtain ⟨marked, progress, hsteps⟩ := Generator.run_ok hrun
  refine ⟨h.pass d, ?_, hrecord, fun y hy htext => ⟨y.artifact, ?_, htext⟩, fun y hy => ?_⟩
  · rw [hsession, Generator.run_marker]
    exact hsteps.definition
  · rw [hsession]
    exact (Generator.lookup_run hrun).2 hy
  · rw [hsession, hcache] at hy
    exact List.mem_map_of_mem ((Cache.entries_ofList_perm hkeys).mem_iff.1 hy)

/-- And so does a session that is opened on what the pass has left. -/
theorem primed_start (hs' : start d' p = .ok s') : Primed p s' r d' := by
  obtain ⟨c, -, hrun, -, -⟩ := pass_ok hr
  obtain ⟨hkeys, hmakes, -⟩ := Generator.run_makes hrun
  obtain ⟨marked, progress, hsteps⟩ := Generator.run_ok hrun
  obtain ⟨g, hempty, hextension, hg⟩ := start_recorded hrecord hs'
  have hrecorded : ((g.recorded (fun e => e.artifactText? d' p.outputDir)
      (r.manifest p.crateName p.config.artifactExtension)).map Generated.key).Nodup :=
    Generator.nodup_recorded (Generator.nodup_entries_manifest hkeys)
  refine ⟨.start hs', ?_, hrecord, fun y hy htext => ?_, fun y hy => ?_⟩
  · rw [(IsOf.start hs').marker_eq h]
    exact hsteps.definition
  · rw [(hmakes y hy).name_eq h.named, h.extension, ← hextension] at htext
    have hmem : ⟨y.summary, ⟨y.summary.artifactName g.extension, y.summary.modulePath,
        y.artifact.text⟩⟩ ∈ g.recorded (fun e => e.artifactText? d' p.outputDir)
          (r.manifest p.crateName g.extension) := Generator.mem_recorded_of_text hy htext
    rw [hextension] at hmem htext
    rw [hg]
    exact ⟨_, (Generator.lookup_seed_iff hempty hrecorded).2 hmem, htext⟩
  · rw [hg] at hy
    obtain ⟨-, x, hx, hsummary⟩ :=
      Generator.mem_recorded_manifest (Generator.mem_of_mem_seed hempty hy)
    exact hsummary ▸ List.mem_map_of_mem hx

end

namespace Primed

variable (h : Primed p s r d)

include h

theorem marker_eq (hr : s.generates d = some r') : r'.marker = r.marker := by
  obtain ⟨c, -, -, hrun, -, -⟩ := generates_eq_some hr
  obtain ⟨marked, progress, hsteps⟩ := Generator.run_ok hrun
  exact Except.ok.inj (hsteps.definition.symm.trans h.marker)

/-- What keeps its summary is held, and its file holds the text that it is given again. -/
theorem kept (hr : s.generates d = some r') {x y : Generated} (hx : x ∈ r'.generated)
    (hy : y ∈ r.generated) (hsummary : x.summary = y.summary)
    (htext : d.textIn p.outputDir y.artifact.name = some y.artifact.text) :
    s.generator.holds x.summary = true ∧
      d.textIn p.outputDir x.artifact.name = some x.artifact.text := by
  obtain ⟨c, -, -, hrun, -, -⟩ := generates_eq_some hr
  obtain ⟨a, hlookup, hfound⟩ := h.holds y hy htext
  rw [← hsummary] at hlookup
  rw [((Generator.run_makes hrun).2.1 x hx).eq_of_lookup hlookup]
  unfold Generator.holds
  rw [hlookup]
  exact ⟨rfl, hfound⟩

/-- If all summaries are the same, a pass removes nothing, and touches no place but that of the manifest. -/
theorem same (hr : (s.pass d).result = .ok r') (hwhole : r.Whole d p.outputDir)
    (hsummaries : r'.summaries.Perm r.summaries) : r'.emitted = [] ∧ r'.removed = [] ∧
      (s.pass d).disk.textIn p.outputDir Manifest.fileName = d.textIn p.outputDir Manifest.fileName ∧
      ∀ q, (s.pass d).disk.locate (Manifest.pathIn p.outputDir) ≠ .ok q →
        (s.pass d).disk.node? q = d.node? q := by
  have hgenerates := generates_of_ok hr
  have hsave := h.isOf.saved hr
  obtain ⟨c, -, hrun, -, -⟩ := pass_ok hr
  obtain ⟨hkeys, -, -⟩ := Generator.run_makes hrun
  have hmarker := h.marker_eq hgenerates
  have hkept : ∀ x ∈ r'.generated, s.generator.holds x.summary = true ∧
      d.textIn p.outputDir x.artifact.name = some x.artifact.text := by
    intro x hx
    obtain ⟨y, hy, hsummary⟩ := List.mem_map.1 (hsummaries.mem_iff.1 (List.mem_map_of_mem hx))
    exact h.kept hgenerates hx hy hsummary.symm (hwhole _ (Run.mem_artifacts hy))
  have hremoved : r'.removed = [] := by
    refine List.eq_nil_iff_forall_not_mem.2 fun n hn => ?_
    obtain ⟨y, hy, hgone, -⟩ := (Generator.mem_removed hrun).1 hn
    obtain ⟨x, hx, hsummary⟩ := List.mem_map.1 (hsummaries.mem_iff.2 (h.only y hy))
    exact hgone (List.mem_map.2 ⟨x, hx, congrArg Summary.key hsummary⟩)
  refine ⟨?_, hremoved, ?_, fun q hq => ?_⟩
  · rw [(Generator.run_names hrun).1, Generator.namesWhere, List.map_eq_nil_iff, List.filter_eq_nil_iff]
    intro x hx
    rw [(hkept x hx).1]
    exact Bool.false_ne_true
  · rw [h.record, ← Generator.manifest_congr (congrArg Artifact.name hmarker) hsummaries hkeys]
    exact h.isOf.record hr
  · have htexts : ∀ a ∈ r'.artifacts, d.textIn p.outputDir a.name = some a.text := by
      refine List.forall_mem_cons.2 ⟨?_, fun a ha => ?_⟩
      · rw [hmarker]
        exact hwhole _ (List.mem_cons_self ..)
      · obtain ⟨x, hx, rfl⟩ := List.mem_map.1 ha
        exact (hkept x hx).2
    have hthere : d.HasDirectory p.outputDir := by
      obtain ⟨d₁, -, -, hdirs, -⟩ := Run.save_steps hsave
      obtain ⟨q, hq, -⟩ := Disk.hasFile_of_readText (toOption_eq_some h.record)
      exact Disk.hasDirectory_of_locate hdirs Summary.isPlainName_manifest hq
    exact Run.node_of_texts hsave hthere hremoved (fun a ha => toOption_eq_some (htexts a ha)) hq

/-- What a pass leaves alone of what the run before it has put on the disk. -/
theorem sparesOf (hr : (s.pass d).result = .ok r') : r'.SparesOf r p.outputDir d (s.pass d).disk := by
  have hgenerates := generates_of_ok hr
  obtain ⟨hnames, hfile, hremoved⟩ := h.isOf.artifact_names hgenerates
  have hsave := h.isOf.saved hr
  obtain ⟨c, -, hrun, -, -⟩ := pass_ok hr
  refine ⟨fun x hx y hy hsummary htext => ⟨?_, fun howns => ?_⟩, fun htext hmarker howns => ?_, h.same hr⟩
  · rw [(Generator.run_names hrun).2]
    refine List.mem_map_of_mem (List.mem_filter.2 ⟨hx, ?_⟩)
    rw [(h.kept hgenerates hx hy hsummary htext).1]
    rfl
  · have hmem := Run.mem_artifacts hx
    exact Run.spared_of_owns hsave hnames hmem howns (hremoved x hx) (hfile _ hmem)
      (toOption_eq_some (h.kept hgenerates hx hy hsummary htext).2)
  · have hmem : r'.marker ∈ r'.artifacts := List.mem_cons_self ..
    rw [← h.marker_eq hgenerates] at htext
    exact Run.spared_of_owns hsave hnames hmem howns hmarker (hfile _ hmem) (toOption_eq_some htext)

end Primed

/-- With regular names, in a directory where only sessions of the project have written manifests, the names of
a run lead to places of their own. -/
theorem Standing.tidy (h : Standing p s) (hword : Text.isWord p.crateName.toList = true)
    (hvalid : p.config.validate = .ok ()) (hr : (s.pass d).result = .ok r)
    (hcrate : p.crateName ≠ "__strgen_marker") (hpath : Unslashed p.config.markerPath) :
    r.Tidy (s.pass d).disk p.outputDir := by
  have hkeyed := h.keyed hword (generates_of_ok hr)
  refine ⟨hkeyed.apart hword hcrate (Config.extension_of_validate hvalid)
    (Marker.unslashed_module h.isOf.marker hpath) (Run.save_manifest (h.isOf.saved hr)), fun hmem => ?_⟩
  exact hkeyed.marker_not_mem_typeNames hword hcrate (List.mem_append_right _ hmem)

/-- A session of a project has made a pass that gave a result. Then anything may change but the texts of its
outputs, and the same session, or one that is opened again, makes another one. What that leaves alone depends
on the files that hold their texts after the first pass, and they do if no other name of its run leads to
them. With regular names, in a directory where only sessions of the project have written manifests, the files
of types do in any case. If the crate is not named as markers' files begin, and the marker's path has no
slashes, the marker's does too, and no names of the second run lead to one place. -/
theorem pass_again {d₀ : Disk} {s₀ : Session} (hstart : start d₀ p = .ok s₀) (hs : s₀.Passes s)
    (hr : (s.pass d).result = .ok r)
    (hkeeps : ∀ n ∈ r.outputs, d'.textIn p.outputDir n = (s.pass d).disk.textIn p.outputDir n)
    (hs' : s' = (s.pass d).session ∨ start d' p = .ok s') (hr' : (s'.pass d').result = .ok r') :
    r'.SparesOf r p.outputDir d' (s'.pass d').disk ∧
      (∀ a ∈ r.artifacts, a.name ∉ r.removed → r.Owns (s.pass d).disk p.outputDir a.name →
        d'.textIn p.outputDir a.name = some a.text) ∧
      (Standing p s → Text.isWord p.crateName.toList = true → p.config.validate = .ok () →
        (∀ x ∈ r.generated, d'.textIn p.outputDir x.artifact.name = some x.artifact.text) ∧
        (p.crateName ≠ "__strgen_marker" → Unslashed p.config.markerPath →
          r.Whole d' p.outputDir ∧ r'.Tidy (s'.pass d').disk p.outputDir)) := by
  have h : IsOf p s := (IsOf.start hstart).passes hs
  have hrecord : d'.textIn p.outputDir Manifest.fileName =
      some (r.manifest p.crateName p.config.artifactExtension).toText := by
    rw [hkeeps _ Run.fileName_mem_outputs]
    exact h.record hr
  have htext : ∀ a ∈ r.artifacts, a.name ∉ r.removed →
      r.Owns (s.pass d).disk p.outputDir a.name → d'.textIn p.outputDir a.name = some a.text := by
    intro a ha hremoved howns
    rw [hkeeps _ (Run.name_mem_outputs ha)]
    exact h.text_of_owns hr ha hremoved howns
  refine ⟨?_, htext, fun hstanding hword hvalid => ?_⟩
  · rcases hs' with rfl | hs'
    · exact (primed_pass h hr hrecord).sparesOf hr'
    · exact (primed_start h hr hrecord hs').sparesOf hr'
  have htexts : ∀ x ∈ r.generated, d'.textIn p.outputDir x.artifact.name = some x.artifact.text := by
    intro x hx
    rw [hkeeps _ (Run.generated_mem_outputs hx)]
    exact hstanding.texts hword hvalid hr x hx
  have hstanding' : Standing p s' := by
    rcases hs' with rfl | hs'
    · exact hstanding.pass d
    · exact hstanding.reopened (generates_of_ok hr) hrecord hs'
  refine ⟨htexts, fun hcrate hpath => ⟨List.forall_mem_cons.2 ⟨?_, fun a ha => ?_⟩, ?_⟩⟩
  · have htidy := hstanding.tidy hword hvalid hr hcrate hpath
    have hmem : r.marker ∈ r.artifacts := List.mem_cons_self ..
    exact htext _ hmem htidy.marker (htidy.apart _ (Run.name_mem_files hmem))
  · obtain ⟨x, hx, rfl⟩ := List.mem_map.1 ha
    exact htexts x hx
  · exact hstanding'.tidy hword hvalid hr' hcrate hpath

/-- A pass over a crate with one struct, and another one after there is a second struct. -/
theorem pass_again_second : ∃ (d' : Disk) (r r' : Run),
    (oneStruct.pass .oneStruct).result = .ok r ∧ r.emitted = ["d.P.g.rs"] ∧
      (oneStruct.pass .oneStruct).disk.write "w/s/lib.rs" "#[M]struct P{pub x:u8}#[M]struct Q;" = .ok d' ∧
      ((oneStruct.pass .oneStruct).session.pass d').result = .ok r' ∧ r'.emitted = ["d.Q.g.rs"] ∧
      r'.reused = ["d.P.g.rs"] ∧ r.Whole d' Project.oneStruct.outputDir ∧
      r'.Tidy ((oneStruct.pass .oneStruct).session.pass d').disk Project.oneStruct.outputDir ∧
      r'.SparesOf r Project.oneStruct.outputDir d'
        ((oneStruct.pass .oneStruct).session.pass d').disk := by
  obtain ⟨r, d', r', hr, hemitted, hwrite, hkeeps, hr', hnames⟩ := of_passTwice? passTwice?_oneStruct
  obtain ⟨hspares, -, hregular⟩ := pass_again start_oneStruct .start hr hkeeps (.inl rfl) hr'
  obtain ⟨-, hrest⟩ := hregular (.opened (by decide +kernel) start_oneStruct) (by decide +kernel)
    Project.validate_oneStruct
  obtain ⟨hwhole, htidy⟩ := hrest (by decide) (by unfold Unslashed; decide)
  exact ⟨d', r, r', hr, hemitted, hwrite, hr', hnames.1, hnames.2, hwhole, htidy, hspares⟩

end Session

end DisplayGen
