import DisplayGen.Proofs.Session

/-!
# Texts over many sessions

`Arises p w`: sessions of the project `p` and their passes have led to `w`, starting without a
manifest. Between two steps everything on the disk may change but the files that the tool has written.
A pass may fail before it saves, and one that is stopped while it saves may leave anything.

A save writes the manifest last, so a save that is stopped leaves the old manifest beside new texts. A
session that is opened then pairs the old summaries with the new texts.

* `Situation.Sound`: what every step keeps.
* `Arises.pass_texts`: of which artifacts a pass gives texts that are up to date, and that it leaves them
  on the disk.
-/

namespace DisplayGen

/-- An open session: the disk on which it was opened, the session as it was then and as it is now, and
the generations that it has finished. -/
structure Service where
  found : Disk
  opened : Session
  session : Session
  finished : List (List Generated)

namespace Service

/-- The session after a pass. -/
def after (v : Service) (d : Disk) : Service :=
  { v with session := (v.session.pass d).session, finished := v.finished ++ v.session.finishes d }

/-- The session was opened with a text for the summary that is not up to date, and the summary has been
in each generation since. -/
def Misled (v : Service) (s : Summary) : Prop := v.opened.generator.Misled v.finished s

end Service

/-- Where some steps have led. -/
structure Situation where
  disk : Disk
  service : Option Service
  /-- The names of the files that the tool has written, or may have. -/
  written : List String
  /-- No save was stopped since the last one that was completed, and no two names of that one led to
  one place. -/
  settled : Prop
  /-- Each session was opened on a settled directory. -/
  trusted : Prop

/-- The steps that sessions of a project can take, and what happens between them. -/
inductive Arises (p : Project) : Situation → Prop where
  | start {d : Disk} (h : d.textIn p.outputDir Manifest.fileName = none) :
      Arises p ⟨d, none, [Manifest.fileName], True, True⟩
  /-- Anything changes but the tool's files. -/
  | edit {w : Situation} (h : Arises p w) {d : Disk}
      (keeps : ∀ n ∈ w.written, d.textIn p.outputDir n = w.disk.textIn p.outputDir n) :
      Arises p { w with disk := d }
  | opened {w : Situation} {s : Session} (h : Arises p w) (hs : Session.start w.disk p = .ok s) :
      Arises p { w with service := some ⟨w.disk, s, s, []⟩, trusted := w.trusted ∧ w.settled }
  /-- A pass gives a result. -/
  | passed {w : Situation} {v : Service} {r : Run} (h : Arises p w) (hv : w.service = some v)
      (hr : (v.session.pass w.disk).result = .ok r) :
      Arises p ⟨(v.session.pass w.disk).disk, some (v.after w.disk),
        w.written ++ r.artifacts.map (·.name),
        r.Apart (v.session.pass w.disk).disk p.outputDir, w.trusted⟩
  /-- A pass fails before it saves. -/
  | failed {w : Situation} {v : Service} (h : Arises p w) (hv : w.service = some v)
      (hr : v.session.generates w.disk = none) :
      Arises p { w with service := some (v.after w.disk) }
  /-- A pass is stopped while it saves, by a failure at any step. -/
  | stopped {w : Situation} {v : Service} {r : Run} (h : Arises p w) (hv : w.service = some v)
      (hr : v.session.generates w.disk = some r) (left : Disk) :
      Arises p ⟨left, some (v.after w.disk), w.written ++ r.artifacts.map (·.name), False,
        w.trusted⟩

namespace Service

variable {p : Project} {v : Service} {d : Disk} {r : Run}

/-- The service is one of the project, and its runs have made of the opened generator what it is. -/
structure Valid (p : Project) (v : Service) : Prop where
  started : Session.start v.found p = .ok v.opened
  project : v.session.project = p
  serves : v.opened.generator.Serves v.session.generator v.finished
  named : v.session.generator.Named

namespace Valid

theorem opened {s : Session} (h : Session.start d p = .ok s) : Valid p ⟨d, s, s, []⟩ :=
  ⟨h, (Session.start_ok h).1, .start, Session.named_start h⟩

theorem after (h : Valid p v) (d : Disk) : Valid p (v.after d) := by
  obtain ⟨hsession, hfinishes⟩ | ⟨c, hsession, hfinishes⟩ := v.session.pass_session d
  · have hsame : v.after d = v := by
      unfold Service.after
      rw [hsession, hfinishes, List.append_nil]
    rw [hsame]
    exact h
  · unfold Service.after
    rw [hsession, hfinishes]
    exact ⟨h.started, h.project, h.serves.run c, h.named.run c⟩

theorem extension (h : Valid p v) :
    v.session.generator.extension = p.config.artifactExtension := by
  rw [h.serves.extension]
  exact (Session.start_settings h.started).2

theorem marker (h : Valid p v) :
    Marker.parse p.config.markerPath = .ok v.session.generator.marker := by
  rw [h.serves.marker]
  exact (Session.start_settings h.started).1

theorem opened_extension (h : Valid p v) :
    v.opened.generator.extension = p.config.artifactExtension := by
  rw [← h.serves.extension, h.extension]

/-- What the opened session held for a summary was on the disk, as the manifest had it. -/
theorem found (h : Valid p v) {s : Summary} {a : Artifact}
    (hlookup : v.opened.generator.cache.lookup s = some a) : ∃ m,
      Manifest.load? v.found p.outputDir = .ok (some m) ∧
        s.toEntry p.config.artifactExtension ∈ m.entries ∧
        v.found.textIn p.outputDir a.name = some a.text := by
  have hextension := h.opened_extension
  obtain ⟨-, g, hg, hstart⟩ := Session.start_ok h.started
  have hempty : g.cache = .empty := (Generator.consistent_create hg).cache
  obtain ⟨heq, -⟩ | ⟨m, hload, -, heq⟩ := hstart
  · rw [heq, hempty] at hlookup
    cases hlookup
  · rw [heq] at hlookup hextension
    obtain ⟨hentry, htext, hname⟩ :=
      Generator.mem_recorded (Generator.mem_of_lookup_seed hempty hlookup)
    refine ⟨m, hload, hextension ▸ hentry, ?_⟩
    rw [hname]
    exact htext

/-- The artifacts of a pass that gives a result are on the disk, if no two of its names lead to one
place. -/
theorem textIn_pass (h : Valid p v) (hr : (v.session.pass d).result = .ok r)
    (hapart : r.Apart (v.session.pass d).disk p.outputDir) {x : Generated} (hx : x ∈ r.generated) :
    (v.session.pass d).disk.textIn p.outputDir x.artifact.name = some x.artifact.text := by
  obtain ⟨c, -, hrun, -, hsave⟩ := Session.pass_ok hr
  have hfile : x.artifact.name ≠ Manifest.fileName := by
    rw [((Generator.run_makes hrun).2.1 x hx).name_eq h.named]
    exact x.summary.artifactName_ne_fileName _
  rw [h.project] at hsave
  exact congrArg Except.toOption
    (Run.save_texts hsave (Generator.nodup_artifactNames hrun) (Run.mem_artifacts hx)
      (hapart _ (Run.name_mem_files (Run.mem_artifacts hx))) (h.named.not_mem_removed hrun hx) hfile)

end Valid

end Service

/-- The manifest is the record of a run of renderings, whose artifacts hold their texts; or there is no
manifest. -/
def Situation.Recorded (p : Project) (w : Situation) : Prop :=
  w.disk.textIn p.outputDir Manifest.fileName = none ∨ ∃ r : Run,
    w.disk.textIn p.outputDir Manifest.fileName =
      some (r.manifest p.crateName p.config.artifactExtension).toText ∧
    (r.generated.map Generated.key).Nodup ∧ ∀ x ∈ r.generated,
      x.Rendered p.config.artifactExtension ∧ x.artifact.name ∈ w.written ∧
        w.disk.textIn p.outputDir x.artifact.name = some x.artifact.text

/-- What every step keeps: the open session is one of the project; and as long as each was opened on a
settled directory, a settled directory is recorded, and the cache is one of renderings. -/
structure Situation.Sound (p : Project) (w : Situation) : Prop where
  manifest : Manifest.fileName ∈ w.written
  valid : ∀ v, w.service = some v → v.Valid p
  recorded : w.trusted → w.settled → w.Recorded p
  consistent : w.trusted → ∀ v, w.service = some v → ∃ last, v.session.generator.Consistent last

namespace Situation.Sound

variable {p : Project} {w : Situation} {v : Service} {r : Run} {d : Disk}

theorem edit (h : w.Sound p)
    (keeps : ∀ n ∈ w.written, d.textIn p.outputDir n = w.disk.textIn p.outputDir n) :
    Sound p { w with disk := d } where
  manifest := h.manifest
  valid := h.valid
  recorded htrusted hsettled := by
    obtain hnone | ⟨r, hmanifest, hkeys, hall⟩ := h.recorded htrusted hsettled
    · exact .inl ((keeps _ h.manifest).trans hnone)
    · refine .inr ⟨r, (keeps _ h.manifest).trans hmanifest, hkeys, fun x hx => ?_⟩
      obtain ⟨hrendered, hwritten, htext⟩ := hall x hx
      exact ⟨hrendered, hwritten, (keeps _ hwritten).trans htext⟩
  consistent := h.consistent

/-- A session that is opened on a recorded directory starts with what the run has generated. -/
theorem consistent_start {s : Session} (h : w.Recorded p) (hs : Session.start w.disk p = .ok s) :
    ∃ last, s.generator.Consistent last := by
  obtain ⟨-, g, hg, hstart⟩ := Session.start_ok hs
  have hnew := Generator.consistent_create hg
  obtain ⟨heq, -⟩ | ⟨m, hload, -, heq⟩ := hstart
  · exact ⟨[], heq ▸ hnew⟩
  · obtain ⟨text, htext, hread⟩ := Manifest.load?_eq_some.1 hload
    obtain hnone | ⟨r, hmanifest, hkeys, hall⟩ := h
    · rw [hnone] at htext
      cases htext
    · rw [hmanifest] at htext
      cases htext
      rw [Manifest.read?_toText] at hread
      cases hread
      have hextension := (Generator.create_ok hg).2
      rw [← hextension] at hall heq
      have hperm := Session.recorded_perm p.crateName (fun x hx => (hall x hx).1)
        fun x hx => (hall x hx).2.2
      rw [heq]
      refine ⟨_, Generator.consistent_seed hnew.cache ?_ ?_⟩
      · exact (hperm.map Generated.key).nodup_iff.2 hkeys
      · exact fun x hx => (hall x (hperm.mem_iff.1 hx)).1

theorem opened {s : Session} (h : w.Sound p) (hs : Session.start w.disk p = .ok s) :
    Sound p { w with service := some ⟨w.disk, s, s, []⟩, trusted := w.trusted ∧ w.settled } where
  manifest := h.manifest
  valid v hv := by
    cases hv
    exact .opened hs
  recorded htrusted hsettled := h.recorded htrusted.1 hsettled
  consistent htrusted v hv := by
    cases hv
    exact consistent_start (h.recorded htrusted.1 htrusted.2) hs

/-- A pass keeps a cache of renderings. -/
theorem consistent_after (h : w.Sound p) (hv : w.service = some v) (htrusted : w.trusted)
    (d : Disk) : ∃ last, (v.after d).session.generator.Consistent last := by
  obtain ⟨last, hlast⟩ := h.consistent htrusted v hv
  unfold Service.after
  obtain ⟨hsession, -⟩ | ⟨c, hsession, -⟩ := v.session.pass_session d
  · exact ⟨last, by rw [hsession]; exact hlast⟩
  · exact ⟨_, by rw [hsession]; exact hlast.run c⟩

theorem passed (h : w.Sound p) (hv : w.service = some v)
    (hr : (v.session.pass w.disk).result = .ok r) :
    Sound p ⟨(v.session.pass w.disk).disk, some (v.after w.disk),
      w.written ++ r.artifacts.map (·.name),
      r.Apart (v.session.pass w.disk).disk p.outputDir, w.trusted⟩ where
  manifest := List.mem_append_left _ h.manifest
  valid v' hv' := by
    cases hv'
    exact (h.valid v hv).after w.disk
  recorded htrusted hapart := by
    have hvalid := h.valid v hv
    obtain ⟨last, hlast⟩ := h.consistent htrusted v hv
    obtain ⟨c, -, hrun, -, hsave⟩ := Session.pass_ok hr
    obtain ⟨hkeys, hmakes, -⟩ := Generator.run_makes hrun
    rw [hvalid.project] at hsave
    refine .inr ⟨r, congrArg Except.toOption (Run.save_manifest hsave), hkeys, fun x hx => ?_⟩
    refine ⟨hvalid.extension ▸ hlast.rendered_of_makes (hmakes x hx), ?_,
      hvalid.textIn_pass hr hapart hx⟩
    exact List.mem_append_right _ (List.mem_map_of_mem (Run.mem_artifacts hx))
  consistent htrusted v' hv' := by
    cases hv'
    exact h.consistent_after hv htrusted w.disk

theorem failed (h : w.Sound p) (hv : w.service = some v) :
    Sound p { w with service := some (v.after w.disk) } where
  manifest := h.manifest
  valid v' hv' := by
    cases hv'
    exact (h.valid v hv).after w.disk
  recorded := h.recorded
  consistent htrusted v' hv' := by
    cases hv'
    exact h.consistent_after hv htrusted w.disk

theorem stopped (h : w.Sound p) (hv : w.service = some v) (r : Run) (left : Disk) :
    Sound p ⟨left, some (v.after w.disk), w.written ++ r.artifacts.map (·.name), False,
      w.trusted⟩ where
  manifest := List.mem_append_left _ h.manifest
  valid v' hv' := by
    cases hv'
    exact (h.valid v hv).after w.disk
  recorded _ hsettled := hsettled.elim
  consistent htrusted v' hv' := by
    cases hv'
    exact h.consistent_after hv htrusted w.disk

end Situation.Sound

namespace Arises

variable {p : Project} {w : Situation} {v : Service} {r : Run}

theorem sound (h : Arises p w) : w.Sound p := by
  induction h with
  | start h =>
    exact {
      manifest := List.mem_singleton_self _
      valid := fun _ hv => nomatch hv
      recorded := fun _ _ => .inl h
      consistent := fun _ _ hv => nomatch hv }
  | edit _ keeps ih => exact ih.edit keeps
  | opened _ hs ih => exact ih.opened hs
  | passed _ hv hr ih => exact ih.passed hv hr
  | failed _ hv _ ih => exact ih.failed hv
  | @stopped _ _ r _ hv _ left ih => exact ih.stopped hv r left

/-- Whatever a pass gives, what it leaves is one of the situations that arise. -/
theorem after_pass (h : Arises p w) (hv : w.service = some v) : ∃ w', Arises p w' ∧
    w'.disk = (v.session.pass w.disk).disk ∧ w'.service = some (v.after w.disk) := by
  cases hr : (v.session.pass w.disk).result with
  | ok r => exact ⟨_, h.passed hv hr, rfl, rfl⟩
  | error e =>
    cases hrun : v.session.generates w.disk with
    | none => exact ⟨_, h.failed hv hrun, (Session.pass_disk hrun).symm, rfl⟩
    | some r => exact ⟨_, h.stopped hv hrun (v.session.pass w.disk).disk, rfl, rfl⟩

end Arises

/-- What is known of the texts of a pass that gives a result. -/
structure Service.Texts (v : Service) (p : Project) (w : Situation) (r : Run) : Prop where
  /-- The summaries are those that the sources have now. -/
  current : ∃ c m marked, p.loadCrate w.disk = .ok c ∧ Marker.parse p.config.markerPath = .ok m ∧
    m.definition = .ok r.marker ∧ c.addArtifact r.marker = .ok marked ∧
      r.summaries = marked.summaries p.config.markerPath
  /-- A text is up to date unless the session has been misled about it. -/
  upToDate_iff : ∀ x ∈ r.generated,
    x.UpToDate p.config.artifactExtension ↔ ¬ v.Misled x.summary
  /-- A text that is not up to date stood on the disk when the session was opened, in the file of an
  artifact that the manifest listed with the summary. -/
  found : ∀ x ∈ r.generated, ¬ x.UpToDate p.config.artifactExtension → ∃ m,
    Manifest.load? v.found p.outputDir = .ok (some m) ∧
      x.summary.toEntry p.config.artifactExtension ∈ m.entries ∧
      v.found.textIn p.outputDir x.artifact.name = some x.artifact.text
  /-- If no session was opened after a save that was stopped, all texts are up to date. -/
  trusted : w.trusted → ∀ x ∈ r.generated, x.UpToDate p.config.artifactExtension
  /-- The texts are on the disk. -/
  saved : r.Apart (v.session.pass w.disk).disk p.outputDir → ∀ x ∈ r.generated,
    (v.session.pass w.disk).disk.textIn p.outputDir x.artifact.name = some x.artifact.text

/-- The texts of a pass that gives a result, whatever has come before it. -/
theorem Arises.pass_texts {p : Project} {w : Situation} {v : Service} {r : Run} (h : Arises p w)
    (hv : w.service = some v) (hr : (v.session.pass w.disk).result = .ok r) : v.Texts p w r := by
  have hvalid := h.sound.valid v hv
  obtain ⟨c, hload, hrun, -, -⟩ := Session.pass_ok hr
  obtain ⟨marked, progress, hsteps⟩ := Generator.run_ok hrun
  refine ⟨⟨c, _, marked, hvalid.project ▸ hload, hvalid.marker, hsteps.definition, hsteps.addMarker,
    ?_⟩, ?_, ?_, ?_, ?_⟩
  · rw [hsteps.advances.1, Marker.parse_path hvalid.marker]
  · intro x hx
    rw [← hvalid.opened_extension]
    exact hvalid.serves.upToDate_iff hrun hx
  · intro x hx hout
    rw [← hvalid.opened_extension] at hout
    obtain ⟨hlookup, -⟩ := hvalid.serves.of_not_upToDate hrun hx hout
    exact hvalid.found hlookup
  · intro htrusted x hx
    obtain ⟨last, hlast⟩ := h.sound.consistent htrusted v hv
    rw [← hvalid.extension]
    exact (hlast.rendered_of_makes ((Generator.run_makes hrun).2.1 x hx)).upToDate
  · exact fun hapart x hx => hvalid.textIn_pass hr hapart hx

/-- The first pass over a crate with one marked struct. -/
theorem Arises.pass_texts_first : ∃ (v : Service) (w : Situation) (r : Run),
    r.emitted = ["d.P.g.rs"] ∧ v.Texts .oneStruct w r := by
  have hempty : Disk.oneStruct.textIn Project.oneStruct.outputDir Manifest.fileName = none := by
    decide +kernel
  obtain ⟨r, -, -, hr, hemitted, -⟩ := Session.of_passTwice? Session.passTwice?_oneStruct
  exact ⟨_, _, r, hemitted,
    Arises.pass_texts ((Arises.start hempty).opened Session.start_oneStruct) rfl hr⟩

end DisplayGen
