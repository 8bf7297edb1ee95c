import DisplayGen.Proofs.Generator.Saved
import DisplayGen.Proofs.Generator.Seeded
import DisplayGen.Session

/-!
# One pass of a session

* `Session.start_ok`: a session starts with what the manifest lists and the disk holds, or with
  nothing.
* `Session.pass_ok`: what a pass does that gives a result.
* `Session.pass_session`: what any pass makes of its session.
* `Session.pass_of_foretell?`: a pass is what is told of it without reading what is generated.
* `Session.passTwice?_oneStruct`: two passes over a small crate.
-/

namespace DisplayGen

/-- The text of the file with a name in a directory, if there is one. -/
def Disk.textIn (d : Disk) (dir name : String) : Option String :=
  (d.readText (joinPaths dir name)).toOption

theorem Disk.textIn_eq_none {d : Disk} {dir name : String}
    (h : d.contains (joinPaths dir name) = false) : d.textIn dir name = none := by
  cases htext : d.textIn dir name with
  | none => rfl
  | some text =>
    obtain ⟨place, written, hlocate, hnode⟩ := Disk.readText_ok.1 (toOption_eq_some htext)
    unfold Disk.contains Disk.find at h
    rw [hlocate] at h
    dsimp only at h
    rw [hnode] at h
    cases h

namespace Manifest

variable {d : Disk} {dir : String} {m : Manifest}

/-- The manifest of a directory is what the text of its file is read as. -/
theorem load?_eq_some : load? d dir = .ok (some m) ↔
    ∃ text, d.textIn dir fileName = some text ∧ read? text = some m := by
  unfold load?
  constructor
  · intro h
    dsimp only at h
    split at h
    · obtain ⟨text, htext, h⟩ := bind_ok h
      rw [withContext_ok, ofFile_ok] at htext
      split at h
      · rename_i hread
        cases h
        exact ⟨text, congrArg Except.toOption htext, hread⟩
      · cases h
    · cases h
  · rintro ⟨text, hfound, hread⟩
    have htext : d.readText (pathIn dir) = .ok text := toOption_eq_some hfound
    have hthere : d.contains (pathIn dir) = true := by
      by_contra hnone
      have hnone := Disk.textIn_eq_none (Bool.eq_false_of_not_eq_true hnone)
      rw [hnone] at hfound
      cases hfound
    dsimp only
    rw [if_pos hthere, withContext_ok.2 (ofFile_ok.2 htext)]
    dsimp only [bind, Except.bind]
    rw [hread]
    rfl

end Manifest

namespace Session

variable {d : Disk} {p : Project} {s : Session} {r : Run}

/-- A session starts with a new generator: with nothing in its cache, or with the artifacts that a
manifest of its crate lists and whose texts the disk holds. -/
theorem start_ok (h : start d p = .ok s) : s.project = p ∧ ∃ g,
    Generator.create p.config.markerPath p.config.artifactExtension = .ok g ∧
      (s.generator = g ∧ (∀ m, Manifest.load? d p.outputDir = .ok (some m) →
        m.crateName ≠ p.crateName) ∨
      ∃ m, Manifest.load? d p.outputDir = .ok (some m) ∧ m.crateName = p.crateName ∧
        s.generator = g.seed (g.recorded (fun e => e.artifactText? d p.outputDir) m)) := by
  unfold start at h
  obtain ⟨g, hg, h⟩ := bind_ok h
  obtain ⟨found, hload, h⟩ := bind_ok h
  rw [withContext_ok, ofGeneration_ok] at hg
  split at h
  · rename_i m
    split at h
    · rename_i hname
      cases h
      exact ⟨rfl, g, hg, .inr ⟨m, hload, hname, rfl⟩⟩
    · rename_i hname
      cases h
      refine ⟨rfl, g, hg, .inl ⟨rfl, fun m' hm' => ?_⟩⟩
      rw [hload] at hm'
      cases hm'
      exact hname
  · cases h
    refine ⟨rfl, g, hg, .inl ⟨rfl, fun m' hm' => ?_⟩⟩
    rw [hload] at hm'
    cases hm'

/-- A session that is started has the settings of its project. -/
theorem start_settings (h : start d p = .ok s) : Marker.parse p.config.markerPath = .ok s.generator.marker ∧
    s.generator.extension = p.config.artifactExtension := by
  obtain ⟨-, g, hg, hstart⟩ := start_ok h
  have hsettings := Generator.create_ok hg
  rcases hstart with ⟨heq, -⟩ | ⟨m, -, -, heq⟩
  · rw [heq]
    exact hsettings
  · rw [heq]
    exact hsettings

/-- Without a manifest, a session starts with a new generator. -/
theorem start_none (hnone : d.textIn p.outputDir Manifest.fileName = none) (h : start d p = .ok s) :
    Generator.create p.config.markerPath p.config.artifactExtension = .ok s.generator := by
  obtain ⟨-, g, hg, ⟨heq, -⟩ | ⟨m, hload, -, -⟩⟩ := start_ok h
  · rw [heq]
    exact hg
  · obtain ⟨text, htext, -⟩ := Manifest.load?_eq_some.1 hload
    rw [hnone] at htext
    cases htext

/-- On the record of a run for its crate, a session starts with what it finds of it. -/
theorem start_recorded {extension : String} (htext : d.textIn p.outputDir Manifest.fileName =
      some (r.manifest p.crateName extension).toText) (h : start d p = .ok s) : ∃ g : Generator,
    g.cache = .empty ∧ g.extension = p.config.artifactExtension ∧ s.generator =
      g.seed (g.recorded (fun e => e.artifactText? d p.outputDir) (r.manifest p.crateName extension)) := by
  have hload : Manifest.load? d p.outputDir = .ok (some (r.manifest p.crateName extension)) :=
    Manifest.load?_eq_some.2 ⟨_, htext, Manifest.read?_toText _⟩
  obtain ⟨-, g, hg, ⟨-, hother⟩ | ⟨m, hm, -, heq⟩⟩ := start_ok h
  · exact absurd rfl (hother _ hload)
  · rw [hload] at hm
    cases hm
    exact ⟨g, (Generator.consistent_create hg).cache, (Generator.create_ok hg).2, heq⟩

/-- A session that is opened on the manifest of its crate takes up what the disk holds of it. -/
theorem start_manifest {g : Generator} {m : Manifest}
    (hg : Generator.create p.config.markerPath p.config.artifactExtension = .ok g)
    (hload : Manifest.load? d p.outputDir = .ok (some m)) (hname : m.crateName = p.crateName) :
    start d p = .ok ⟨p, g.seed (g.recorded (fun e => e.artifactText? d p.outputDir) m)⟩ := by
  unfold start
  rw [hg, hload]
  exact if_pos hname

/-- From the manifest of a run, and files that hold the texts of its artifacts, all that the run has
generated is taken up. -/
theorem recorded_perm {g : Generator} {dir : String} (crateName : String)
    (hrendered : ∀ x ∈ r.generated, x.Rendered g.extension)
    (htexts : ∀ x ∈ r.generated, d.textIn dir x.artifact.name = some x.artifact.text) :
    (g.recorded (fun e => e.artifactText? d dir) (r.manifest crateName g.extension)).Perm
      r.generated := by
  refine Generator.recorded_manifest _ crateName hrendered fun x hx => ?_
  have htext := htexts x hx
  rw [(hrendered x hx).name_eq] at htext
  exact htext

theorem named_start (h : start d p = .ok s) : s.generator.Named := by
  obtain ⟨-, g, hg, hstart⟩ := start_ok h
  have hempty : g.cache = .empty := (Generator.consistent_create hg).cache
  rcases hstart with ⟨heq, -⟩ | ⟨m, -, -, heq⟩
  · rw [heq]
    intro x hx
    rw [hempty] at hx
    cases hx
  · rw [heq]
    exact Generator.named_seed hempty

/-- The run that a pass makes. It may still fail to be saved. -/
def generates (s : Session) (d : Disk) : Option Run :=
  match s.project.loadCrate d with
  | .ok c => (s.generator.run c).result.toOption
  | .error _ => none

/-- The generations that a pass finishes: one or none. -/
def finishes (s : Session) (d : Disk) : List (List Generated) :=
  ((s.generates d).map (·.generated)).toList

/-- A pass leaves its session as it was, or with the generator after a run. -/
theorem pass_session (s : Session) (d : Disk) :
    ((s.pass d).session = s ∧ s.finishes d = []) ∨ ∃ c,
      (s.pass d).session = { s with generator := (s.generator.run c).generator } ∧
        s.finishes d = (s.generator.run c).finished := by
  unfold pass finishes generates Outcome.finished
  cases s.project.loadCrate d with
  | error e => exact .inl ⟨rfl, rfl⟩
  | ok c =>
    refine .inr ⟨c, ?_⟩
    dsimp only
    cases (s.generator.run c).result with
    | error e => exact ⟨rfl, rfl⟩
    | ok r => exact ⟨rfl, rfl⟩

/-- A pass leaves the project of its session as it was. -/
theorem pass_project (s : Session) (d : Disk) : (s.pass d).session.project = s.project := by
  rcases s.pass_session d with ⟨hsession, -⟩ | ⟨c, hsession, -⟩
  · rw [hsession]
  · rw [hsession]

/-- A pass that makes a run leaves its session with the generator after it, and the disk after the save.
-/
theorem generates_eq_some (h : s.generates d = some r) : ∃ c saved,
    s.project.loadCrate d = .ok c ∧ (s.generator.run c).result = .ok r ∧
      (s.pass d).session = { s with generator := (s.generator.run c).generator } ∧
      (r.save s.project.crateName s.project.config.artifactExtension s.project.outputDir).outcome d =
        (saved, (s.pass d).disk) := by
  unfold generates at h
  unfold pass
  cases hload : s.project.loadCrate d with
  | error e =>
    rw [hload] at h
    cases h
  | ok c =>
    rw [hload] at h
    have hrun := toOption_eq_some h
    dsimp only
    rw [hrun]
    exact ⟨c, _, rfl, hrun, rfl, rfl⟩

/-- A pass that makes no run leaves its session as it was, or with the generator after a run that failed.
-/
theorem generates_eq_none (h : s.generates d = none) : (s.pass d).session = s ∨ ∃ c e,
    (s.generator.run c).result = .error e ∧
      (s.pass d).session = { s with generator := (s.generator.run c).generator } := by
  unfold generates at h
  unfold pass
  cases hload : s.project.loadCrate d with
  | error e => exact .inl rfl
  | ok c =>
    rw [hload] at h
    dsimp only at h ⊢
    cases hrun : (s.generator.run c).result with
    | error e => exact .inr ⟨c, e, hrun, rfl⟩
    | ok r =>
      rw [hrun] at h
      cases h

/-- A pass that makes no run leaves the disk as it was. -/
theorem pass_disk (h : s.generates d = none) : (s.pass d).disk = d := by
  unfold pass
  unfold generates at h
  cases hload : s.project.loadCrate d with
  | error e => rfl
  | ok c =>
    rw [hload] at h
    dsimp only at h ⊢
    cases hrun : (s.generator.run c).result with
    | error e => rfl
    | ok r =>
      rw [hrun] at h
      cases h

/-- A pass that gives a result has made a run over the crate and saved it. -/
theorem pass_ok (h : (s.pass d).result = .ok r) : ∃ c,
    s.project.loadCrate d = .ok c ∧ (s.generator.run c).result = .ok r ∧
      (s.pass d).session = { s with generator := (s.generator.run c).generator } ∧
      (r.save s.project.crateName s.project.config.artifactExtension s.project.outputDir).outcome d =
        (.ok (), (s.pass d).disk) := by
  unfold pass at h ⊢
  cases hload : s.project.loadCrate d with
  | error e =>
    rw [hload] at h
    cases h
  | ok c =>
    rw [hload] at h
    dsimp only at h ⊢
    cases hrun : (s.generator.run c).result with
    | error e =>
      rw [hrun] at h
      cases h
    | ok r' =>
      rw [hrun] at h
      change (((r'.save s.project.crateName s.project.config.artifactExtension
        s.project.outputDir).outcome d).1.map fun _ => r') = .ok r at h
      cases hsave : (r'.save s.project.crateName s.project.config.artifactExtension
          s.project.outputDir).outcome d with
      | mk saved d' =>
        rw [hsave] at h
        cases saved with
        | error e => cases h
        | ok u =>
          obtain rfl : r' = r := Except.ok.inj h
          have hfst := congrArg Prod.fst hsave
          exact ⟨c, rfl, hrun, rfl, Prod.ext hfst rfl⟩

/-- A pass that gives a result has made it as its run. -/
theorem generates_of_ok (h : (s.pass d).result = .ok r) : s.generates d = some r := by
  obtain ⟨c, hload, hrun, -, -⟩ := pass_ok h
  unfold generates
  rw [hload]
  exact congrArg Except.toOption hrun

/-- What is left of the session and the disk after a pass that gives a result, and its run, told without
reading what is generated. -/
def foretell? (s : Session) (i : Source.Ident) (d : Disk) : Option (Session × Disk × Run) := do
  let c ← (s.project.loadCrate d).toOption
  let (g, r) ← s.generator.foretell? i c
  match (r.save s.project.crateName s.project.config.artifactExtension s.project.outputDir).outcome d with
  | (.ok _, d') => some (⟨s.project, g⟩, d', r)
  | (.error _, _) => none

/-- A pass is what is told of it, and the session can go on with passes of which that holds. -/
theorem pass_of_foretell? {last : List Generated} {i : Source.Ident} {s' : Session} {d' : Disk}
    (h : s.generator.Consistent last) (hi : i.written = s.generator.marker.name) (hname : i.isName = true)
    (hf : s.foretell? i d = some (s', d', r)) : s.pass d = ⟨s', d', .ok r⟩ ∧
      s'.generator.Consistent r.generated ∧ s'.generator.marker = s.generator.marker := by
  obtain ⟨c, hload, hf⟩ := Option.bind_eq_some_iff.1 hf
  obtain ⟨⟨g, r₀⟩, hrun, hf⟩ := Option.bind_eq_some_iff.1 hf
  dsimp only at hf
  split at hf
  · rename_i saved d₁ hsave
    cases hf
    obtain ⟨hr, rfl⟩ := Generator.run_of_foretell? (fun _ => h.rendered_of_makes) hi hname hrun
    refine ⟨?_, h.run_ok hr, Generator.run_marker _ c⟩
    unfold pass
    rw [toOption_eq_some hload]
    dsimp only
    rw [withContext_ok.2 (ofGeneration_ok.2 hr)]
    dsimp only
    rw [hsave]
    rfl
  · cases hf

end Session

/-! ## Two passes over a small crate -/

/-- A crate with one marked struct, and its sources. -/
def Project.oneStruct : Project := ⟨"w", "d", ⟨"crate::M", "s", "o", "rs", 1⟩, none⟩

@[inherit_doc Project.oneStruct]
def Disk.oneStruct : Disk :=
  ⟨"w", [(["s"], .directory), (["s", "lib.rs"], .file (.text "#[M]struct P{pub x:u8}") false)]⟩

theorem Project.validate_oneStruct : Project.oneStruct.config.validate = .ok () :=
  toOption_eq_some (by decide +kernel)

namespace Session

/-- The session that is opened on it. -/
def oneStruct : Session := ⟨.oneStruct, ⟨⟨"crate::M", [], "M"⟩, "rs", .empty, .empty⟩⟩

theorem start_oneStruct : start .oneStruct .oneStruct = .ok oneStruct :=
  toOption_eq_some (by decide +kernel)

/-- Two passes of a session, with a text written between them to a file which is none of the outputs: the
names that the first one has emitted, and those that the second one has emitted and reused. -/
def passTwice? (s : Session) (d : Disk) (path text : String) :
    Option (List String × List String × List String) := do
  let r ← (s.pass d).result.toOption
  let d' ← ((s.pass d).disk.write path text).toOption
  let r' ← ((s.pass d).session.pass d').result.toOption
  if r.outputs.all fun n =>
    d'.textIn s.project.outputDir n = (s.pass d).disk.textIn s.project.outputDir n
  then some (r.emitted, r'.emitted, r'.reused)
  else none

theorem of_passTwice? {s : Session} {d : Disk} {path text : String} {emitted emitted' reused : List String}
    (h : s.passTwice? d path text = some (emitted, emitted', reused)) :
    ∃ r d' r', (s.pass d).result = .ok r ∧ r.emitted = emitted ∧
      (s.pass d).disk.write path text = .ok d' ∧
      (∀ n ∈ r.outputs,
        d'.textIn s.project.outputDir n = (s.pass d).disk.textIn s.project.outputDir n) ∧
      ((s.pass d).session.pass d').result = .ok r' ∧ r'.emitted = emitted' ∧ r'.reused = reused := by
  obtain ⟨r, hr, h⟩ := Option.bind_eq_some_iff.1 h
  obtain ⟨d', hd', h⟩ := Option.bind_eq_some_iff.1 h
  obtain ⟨r', hr', h⟩ := Option.bind_eq_some_iff.1 h
  split at h
  · rename_i hkeeps
    obtain ⟨rfl, rfl, rfl⟩ := by simpa using h
    refine ⟨r, d', r', toOption_eq_some hr, rfl, toOption_eq_some hd', fun n hn => ?_,
      toOption_eq_some hr', rfl, rfl⟩
    exact of_decide_eq_true (List.all_eq_true.1 hkeeps n hn)
  · cases h

theorem consistent_oneStruct : oneStruct.generator.Consistent [] :=
  Generator.consistent_create Generator.create_root

/-- Two passes of a session, told without reading what is generated: the disk and the run after the first
one, what a text makes of the disk that is written to a file, and the run of the second one. -/
def foretellTwice? (s : Session) (i : Source.Ident) (d : Disk) (path text : String) :
    Option ((Disk × Run) × (Disk × Run)) := do
  let (s', d', r) ← s.foretell? i d
  let d₁ ← (d'.write path text).toOption
  let (_, _, r₁) ← s'.foretell? i d₁
  return ((d', r), (d₁, r₁))

theorem passes_of_foretellTwice? {last : List Generated} {i : Source.Ident} {s : Session} {d d' d₁ : Disk}
    {path text : String} {r r₁ : Run} (h : s.generator.Consistent last)
    (hi : i.written = s.generator.marker.name) (hname : i.isName = true)
    (hf : s.foretellTwice? i d path text = some ((d', r), (d₁, r₁))) :
    (s.pass d).result = .ok r ∧ (s.pass d).disk = d' ∧ d'.write path text = .ok d₁ ∧
      ((s.pass d).session.pass d₁).result = .ok r₁ := by
  obtain ⟨⟨s', d', r⟩, hfirst, hf⟩ := Option.bind_eq_some_iff.1 hf
  obtain ⟨d₁, hwrite, hf⟩ := Option.bind_eq_some_iff.1 hf
  obtain ⟨⟨s'', d'', r₁⟩, hsecond, hf⟩ := Option.bind_eq_some_iff.1 hf
  cases hf
  obtain ⟨hpass, hconsistent, hmarker⟩ := pass_of_foretell? h hi hname hfirst
  obtain ⟨hpass', -⟩ := pass_of_foretell? hconsistent (hmarker ▸ hi) hname hsecond
  rw [hpass]
  exact ⟨rfl, rfl, toOption_eq_some hwrite, congrArg PassOutcome.result hpass'⟩

/-- A pass over a crate with one struct, and another one after there is a second struct. -/
theorem passTwice?_oneStruct : oneStruct.passTwice? .oneStruct "w/s/lib.rs"
    "#[M]struct P{pub x:u8}#[M]struct Q;" = some (["d.P.g.rs"], ["d.Q.g.rs"], ["d.P.g.rs"]) := by
  have hforetold : (oneStruct.foretellTwice? (.plain "M") .oneStruct "w/s/lib.rs"
      "#[M]struct P{pub x:u8}#[M]struct Q;").map (fun ((d', r), (d₁, r₁)) =>
        (r.outputs.all fun n =>
            d₁.textIn oneStruct.project.outputDir n = d'.textIn oneStruct.project.outputDir n,
          r.emitted, r₁.emitted, r₁.reused)) =
      some (true, ["d.P.g.rs"], ["d.Q.g.rs"], ["d.P.g.rs"]) := by decide +kernel
  obtain ⟨⟨⟨d', r⟩, ⟨d₁, r₁⟩⟩, hf, h⟩ := Option.map_eq_some_iff.1 hforetold
  obtain ⟨hkeeps, hnames⟩ := Prod.mk.inj h
  obtain ⟨hr, hdisk, hwrite, hr₁⟩ := passes_of_foretellTwice? consistent_oneStruct rfl rfl hf
  unfold passTwice?
  rw [hr, hdisk, hwrite, ← hnames]
  refine Option.bind_eq_some_iff.2 ⟨r, rfl, Option.bind_eq_some_iff.2 ⟨d₁, rfl, ?_⟩⟩
  exact Option.bind_eq_some_iff.2 ⟨r₁, by rw [hr₁]; rfl, if_pos hkeeps⟩

end Session

end DisplayGen
