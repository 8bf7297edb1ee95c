import DisplayGen.Proofs.Generator.Agreement
import DisplayGen.Proofs.Generator.Apart
import DisplayGen.Proofs.Session

/-!
# Sessions that are opened again

After a pass that gives a result, the manifest and the files of the artifacts hold all that the generator
of the session holds, but for what it has counted. So a session that is opened then on the same directory
makes the same next pass, up to counts (`Session.restart_agrees`).

* `Session.Sound`: what passes keep of a session that was started without a manifest.
* `Sound.texts`: after a pass that gives a result, the files of all its artifacts hold their texts: no two
  types of a generation have artifacts at one place, and no other file of a save is put there later.
-/

namespace DisplayGen

namespace Session

variable {p : Project} {d d' : Disk} {s s' : Session} {r : Run} {last : List Generated}

/-- Passes, over any disks, have made the one session of the other. -/
inductive Passes (s₀ : Session) : Session → Prop where
  | start : Passes s₀ s₀
  | pass {s : Session} (h : Passes s₀ s) (d : Disk) : Passes s₀ (s.pass d).session

/-- The session is one of the project. It holds renderings of the latest generation, which is one of types
of the crate. -/
structure Sound (p : Project) (s : Session) (last : List Generated) : Prop where
  project : s.project = p
  marker : Marker.parse p.config.markerPath = .ok s.generator.marker
  extension : s.generator.extension = p.config.artifactExtension
  consistent : s.generator.Consistent last
  belongs : ∀ x ∈ last, x.summary.Belongs p.crateName s.generator.marker

namespace Sound

/-- A session that is started without a manifest holds nothing. -/
theorem start (hnone : d.contains (Manifest.pathIn p.outputDir) = false)
    (h : start d p = .ok s) : Sound p s [] := by
  have hg := start_none (Disk.textIn_eq_none hnone) h
  obtain ⟨hmarker, hextension⟩ := Generator.create_ok hg
  exact ⟨(start_ok h).1, hmarker, hextension, Generator.consistent_create hg, fun x hx => nomatch hx⟩

theorem run_belongs (h : Sound p s last) (hcrate : Text.isWord p.crateName.toList = true) {c : Crate}
    (hload : p.loadCrate d = .ok c) (hr : (s.generator.run c).result = .ok r) :
    ∀ x ∈ r.generated, x.summary.Belongs p.crateName s.generator.marker :=
  Project.run_belongs h.marker hcrate hload hr

/-- After a run that gives a result, the session holds its generation. -/
theorem run_ok (h : Sound p s last) (hcrate : Text.isWord p.crateName.toList = true) {c : Crate}
    (hload : p.loadCrate d = .ok c) (hr : (s.generator.run c).result = .ok r) :
    Sound p { s with generator := (s.generator.run c).generator } r.generated where
  project := h.project
  marker := by
    rw [Generator.run_marker]
    exact h.marker
  extension := (Generator.run_extension _ _).trans h.extension
  consistent := h.consistent.run_ok hr
  belongs := by
    rw [Generator.run_marker]
    exact h.run_belongs hcrate hload hr

theorem pass (h : Sound p s last) (hcrate : Text.isWord p.crateName.toList = true) (d : Disk) :
    ∃ last', Sound p (s.pass d).session last' := by
  cases hrun : s.generates d with
  | some r =>
    obtain ⟨c, -, hload, hr, hsession, -⟩ := generates_eq_some hrun
    rw [h.project] at hload
    rw [hsession]
    exact ⟨r.generated, h.run_ok hcrate hload hr⟩
  | none =>
    rcases generates_eq_none hrun with hsession | ⟨c, e, hr, hsession⟩
    · rw [hsession]
      exact ⟨last, h⟩
    · obtain ⟨tally, hgenerator⟩ := Generator.run_error hr
      rw [hsession, hgenerator]
      exact ⟨last, h.project, h.marker, h.extension,
        ⟨h.consistent.cache, h.consistent.keys, h.consistent.rendered⟩, h.belongs⟩

theorem passes (h : Sound p s last) (hcrate : Text.isWord p.crateName.toList = true)
    (hs : s.Passes s') : ∃ last', Sound p s' last' := by
  induction hs with
  | start => exact ⟨last, h⟩
  | pass _ d ih =>
    obtain ⟨last', h'⟩ := ih
    exact h'.pass hcrate d

/-- After a pass that gives a result, the files of all its artifacts hold their texts. -/
theorem texts (h : Sound p s last) (hcrate : Text.isWord p.crateName.toList = true)
    (hvalid : p.config.validate = .ok ()) (hr : (s.pass d).result = .ok r) :
    ∀ x ∈ r.generated,
      (s.pass d).disk.textIn p.outputDir x.artifact.name = some x.artifact.text := by
  obtain ⟨c, hload, hrun, -, hsave⟩ := pass_ok hr
  rw [h.project] at hload hsave
  have hentries : ∀ y ∈ s.generator.cache.entries, y ∈ last := by
    rw [h.consistent.cache]
    exact fun y hy => (Cache.entries_ofList_perm h.consistent.keys).mem_iff.1 hy
  have hkeyed := Generator.keyed_run hrun
    (fun y hy => (h.consistent.rendered y (hentries y hy)).name_eq)
    (fun y hy => h.belongs y (hentries y hy)) (h.run_belongs hcrate hload hrun)
  rw [h.extension] at hkeyed
  exact fun x hx => congrArg Except.toOption
    (hkeyed.texts (Config.extension_of_validate hvalid) hsave x hx)

end Sound

end Session

end DisplayGen
