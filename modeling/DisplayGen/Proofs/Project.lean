import DisplayGen.Proofs.Disk.Walk
import DisplayGen.Proofs.Generator.Names
import DisplayGen.Proofs.Generator.Saved
import DisplayGen.Proofs.Session.Restart

/-!
# Where a project reads and writes

A project is refused if the components of its output directory begin with those of the directory of its
sources. Components that stay where they are do not count, and those that lead up are compared like names.

* `Disk.LeadsOn`: where the paths in a directory lead, whatever is there.
* `Config.not_prefix_landing`: as long as no component leads up, directories that pass the check are apart.
* `Project.load_apart`: where the directories of a project are that passed the check. If neither leads up,
  no output of a run is put at the place of a source.
-/

namespace DisplayGen

/-! ## Paths in a directory -/

/-- The path does not start at the root of the file system. -/
def IsRelative (path : String) : Prop := path.toList.head? ≠ some '/'

namespace Disk

variable {d : Disk} {dir name root : String} {p q : List String}

/-- What the pieces of a path lead to from a place. -/
def goingOn (p : List String) (path : String) : List String :=
  landing p ((splitSlashes path.toList).filterMap innerPart?)

/-- On disks with the given root, relative paths in the directory lead on from the place. -/
def LeadsOn (root dir : String) (p : List String) : Prop :=
  ∃ inner : List (List Char), p = landing [] (inner.filterMap innerPart?) ∧
    ∀ name, IsRelative name → splitSlashes (joinPaths dir name).toList =
      splitSlashes root.toList ++ inner ++ splitSlashes name.toList

namespace LeadsOn

theorem locate (h : LeadsOn d.root dir p) (hname : IsRelative name)
    (hlocate : d.locate (joinPaths dir name) = .ok q) : q = goingOn p name := by
  obtain ⟨inner, rfl, hpieces⟩ := h
  have hpath := hpieces name hname
  rcases locate_pieces hlocate with ⟨heq, -⟩ | ⟨pieces, -, heq, rfl⟩
  · rw [hpath, List.append_assoc] at heq
    exact absurd (List.append_eq_nil_iff.1 (List.append_right_eq_self.1 heq)).2 (splitSlashes_ne_nil _)
  · rw [hpath, List.append_assoc, List.append_cancel_left_eq] at heq
    rw [← heq, List.filterMap_append, landing_append]
    rfl

/-- A relative directory leads on from where its own path leads. -/
theorem joinPaths (h : LeadsOn root dir p) (hname : IsRelative name) :
    LeadsOn root (joinPaths dir name) (goingOn p name) := by
  obtain ⟨inner, rfl, hpieces⟩ := h
  obtain ⟨before, hdir, hbefore⟩ := splitSlashes_joinPaths (DisplayGen.joinPaths dir name)
  rw [hpieces name hname] at hdir
  -- an empty piece at the end of the name is dropped, and stands for nothing
  obtain ⟨pieces, heq, hparts⟩ : ∃ pieces, before = splitSlashes root.toList ++ inner ++ pieces ∧
      (splitSlashes name.toList).filterMap innerPart? = pieces.filterMap innerPart? := by
    rcases hdir with hdir | hdir
    · exact ⟨_, hdir.symm, rfl⟩
    · have hne := splitSlashes_ne_nil name.toList
      rw [← List.dropLast_append_getLast hne, ← List.append_assoc] at hdir
      obtain ⟨hdir, hlast⟩ := List.append_inj' hdir rfl
      refine ⟨_, hdir.symm, ?_⟩
      conv_lhs => rw [← List.dropLast_append_getLast hne, hlast, List.filterMap_append]
      exact List.append_nil _
  refine ⟨inner ++ pieces, ?_, fun name' hname' => ?_⟩
  · rw [List.filterMap_append, landing_append, ← hparts]
    rfl
  · rw [hbefore name' hname', heq, List.append_assoc _ inner pieces]

end LeadsOn

end Disk

/-! ## Components of a directory -/

namespace Config

variable {c : Config} {dir : String}

theorem filter_innerPart? (pieces : List (List Char)) :
    (pieces.filterMap innerPart?).filter (· ≠ .current) =
      (pieces.filterMap laterPart?).filter (· ≠ .current) := by
  induction pieces with
  | nil => rfl
  | cons piece pieces ih =>
    by_cases hpoint : piece = ['.']
    · subst hpoint
      exact ih
    · have hpiece : innerPart? piece = laterPart? piece := by
        unfold innerPart?
        split
        · exact absurd rfl hpoint
        · rfl
      rw [List.filterMap_cons, List.filterMap_cons, hpiece]
      split
      · exact ih
      · rw [List.filter_cons, List.filter_cons, ih]

/-- The components of a relative directory are those that its pieces stand for. -/
theorem directoryParts_eq (h : IsRelative dir) : directoryParts dir =
    ((splitSlashes dir.toList).filterMap innerPart?).filter (· ≠ .current) := by
  unfold directoryParts pathParts
  unfold IsRelative at h
  obtain ⟨first, rest, hsplit⟩ := List.exists_cons_of_ne_nil (splitSlashes_ne_nil dir.toList)
  have hfirst : firstPart? rest.isEmpty first = innerPart? first := by
    cases hdir : dir.toList with
    | nil =>
      rw [hdir] at hsplit
      cases hsplit
      rfl
    | cons c cs =>
      rw [hdir] at h hsplit
      have hc : c ≠ '/' := fun heq => h (congrArg some heq)
      obtain ⟨p, ps, hrest⟩ := List.exists_cons_of_ne_nil (splitSlashes_ne_nil cs)
      rw [splitSlashes_cons hc, hrest] at hsplit
      obtain ⟨rfl, -⟩ := List.cons.inj hsplit
      unfold firstPart? innerPart?
      split
      · rename_i heq
        cases heq
      · rename_i heq
        rw [heq]
        rfl
      · rename_i hpoint
        split
        · rename_i heq
          exact absurd heq hpoint
        · rfl
  rw [hsplit]
  dsimp only
  rw [hfirst, List.filter_append, List.filterMap_cons]
  cases innerPart? first with
  | none => exact (filter_innerPart? rest).symm
  | some part =>
    rw [← filter_innerPart?, ← List.filter_append]
    rfl

theorem root_not_mem (h : IsRelative dir) : .root ∉ directoryParts dir := by
  rw [directoryParts_eq h]
  intro hmem
  obtain ⟨piece, -, hpiece⟩ := List.mem_filterMap.1 (List.mem_filter.1 hmem).1
  exact innerPart?_ne_root piece hpiece

/-- A relative directory that never leads up is a list of names. -/
theorem exists_names (h : IsRelative dir) (hup : .parent ∉ directoryParts dir) :
    ∃ names : List String, directoryParts dir = names.map .name := by
  have hall : ∀ part ∈ directoryParts dir, ∃ n, part = .name n := by
    intro part hpart
    cases part with
    | root => exact absurd hpart (root_not_mem h)
    | current => simp [directoryParts] at hpart
    | parent => exact absurd hpart hup
    | name n => exact ⟨n, rfl⟩
  generalize directoryParts dir = parts at hall
  induction parts with
  | nil => exact ⟨[], rfl⟩
  | cons part parts ih =>
    obtain ⟨⟨n, rfl⟩, hrest⟩ := List.forall_mem_cons.1 hall
    obtain ⟨names, rfl⟩ := ih hrest
    exact ⟨n :: names, rfl⟩

theorem checkOutputDir_of_validate (h : c.validate = .ok ()) :
    c.checkOutputDir c.outputDir = .ok () := by
  unfold validate at h
  obtain ⟨_, -, h⟩ := bind_ok h
  obtain ⟨_, -, h⟩ := bind_ok h
  dsimp only at h
  by_cases hempty : (c.sourceDir.isEmpty || c.outputDir.isEmpty) = true
  · rw [if_pos hempty] at h
    cases h
  · rw [if_neg hempty] at h
    obtain ⟨_, hcheck, -⟩ := bind_ok h
    exact hcheck

end Config

/-! ## The names of outputs -/

/-- The first piece of the name is plain, and the others have no points. -/
def IsOutputName (n : String) : Prop :=
  ∃ first rest, splitSlashes n.toList = first :: rest ∧ 2 < first.length ∧
    ∀ piece ∈ rest, '.' ∉ piece

namespace IsOutputName

variable {n : String}

theorem of_unslashed (h : Unslashed n) (hlength : 2 < n.toList.length) : IsOutputName n :=
  ⟨n.toList, [], splitSlashes_plain h, hlength, fun _ hmem => nomatch hmem⟩

theorem artifactName {s : Summary} {extension : String} (hkey : Unslashed s.key)
    (hextension : '.' ∉ extension.toList) : IsOutputName (s.artifactName extension) := by
  obtain ⟨first, rest, hsplit⟩ := List.exists_cons_of_ne_nil (splitSlashes_ne_nil extension.toList)
  refine ⟨_, rest, Summary.splitSlashes_artifactName hkey hsplit, ?_, fun piece hpiece hpoint => ?_⟩
  · simp only [List.length_append, List.length_cons]
    omega
  · exact hextension (mem_splitSlashes (hsplit ▸ List.mem_cons_of_mem first hpiece) hpoint).1

end IsOutputName

namespace Session

variable {p : Project} {d : Disk} {s s' : Session} {r : Run}

/-- The session has the settings of the project, and its cache names artifacts as they say. -/
structure IsOf (p : Project) (s : Session) : Prop where
  project : s.project = p
  marker : Marker.parse p.config.markerPath = .ok s.generator.marker
  extension : s.generator.extension = p.config.artifactExtension
  named : s.generator.Named

namespace IsOf

theorem start (h : start d p = .ok s) : IsOf p s :=
  ⟨(start_ok h).1, (start_settings h).1, (start_settings h).2, named_start h⟩

theorem pass (h : IsOf p s) (d : Disk) : IsOf p (s.pass d).session := by
  rcases s.pass_session d with ⟨hsession, -⟩ | ⟨c, hsession, -⟩
  · rw [hsession]
    exact h
  · rw [hsession]
    refine ⟨h.project, ?_, (Generator.run_extension _ _).trans h.extension, h.named.run c⟩
    rw [Generator.run_marker]
    exact h.marker

theorem passes (h : IsOf p s) (hs : s.Passes s') : IsOf p s' := by
  induction hs with
  | start => exact h
  | pass _ d ih => exact ih.pass d

/-- If neither the crate nor the marker's path brings slashes in, the outputs stay in their directory. -/
theorem outputs (h : IsOf p s) (hvalid : p.config.validate = .ok ())
    (hcrate : Text.isWord p.crateName.toList = true) (hpath : Unslashed p.config.markerPath)
    (hr : s.generates d = some r) : ∀ n ∈ r.outputs, IsOutputName n := by
  obtain ⟨c, -, hload, hrun, -, -⟩ := generates_eq_some hr
  rw [h.project] at hload
  intro n hn
  rcases Run.mem_outputs.1 hn with ⟨x, hx, rfl⟩ | rfl | rfl
  · have hbelongs := Project.run_belongs h.marker hcrate hload hrun x hx
    rw [((Generator.run_makes hrun).2.1 x hx).name_eq h.named, h.extension]
    exact .artifactName (hbelongs.unslashed (Marker.unslashed_module h.marker hpath))
      (Config.extension_of_validate hvalid)
  · obtain ⟨marked, progress, hsteps⟩ := Generator.run_ok hrun
    rw [Generator.run_marker_name hrun]
    refine .of_unslashed (Summary.unslashed_markerName hsteps.definition) ?_
    have hlength : "__strgen_marker".toList.length = 15 := rfl
    rw [Summary.toList_markerName, List.length_append]
    omega
  · exact .of_unslashed (by unfold Unslashed; decide) (by decide)

end IsOf

end Session

namespace Project

variable {d : Disk} {root : String} {i : Invocation} {p : Project}

/-- The output directory as it was given. -/
def outputName (p : Project) : String := p.outDir.getD p.config.outputDir

theorem validate_loadConfig {given : Option String} {c : Config} (h : loadConfig d root given = .ok c) :
    c.validate = .ok () := by
  unfold loadConfig at h
  split at h
  · unfold readConfig at h
    split at h
    · cases h
    · obtain ⟨_, hvalid, h⟩ := bind_ok h
      cases h
      exact ofConfig_ok.1 (withContext_ok.1 hvalid)
  · cases h
    exact toOption_eq_some (by decide +kernel)

theorem load_ok (h : load d root i = .ok p) : p.root = root ∧ p.config.validate = .ok () ∧
    p.config.checkOutputDir p.outputName = .ok () ∧
      ∃ text, d.readText (joinPaths root Package.fileName) = .ok text := by
  unfold load at h
  obtain ⟨crateName, hcrate, h⟩ := bind_ok h
  obtain ⟨config, hconfig, h⟩ := bind_ok h
  have hvalid := validate_loadConfig hconfig
  obtain ⟨text, htext, -⟩ := bind_ok hcrate
  rw [withContext_ok, ofFile_ok] at htext
  unfold outputName
  cases hdir : i.outDir with
  | some dir =>
    rw [hdir] at h
    obtain ⟨_, hcheck, h⟩ := bind_ok h
    cases h
    exact ⟨rfl, hvalid, ofConfig_ok.1 (withContext_ok.1 hcheck), text, htext⟩
  | none =>
    rw [hdir] at h
    cases h
    exact ⟨rfl, hvalid, Config.checkOutputDir_of_validate hvalid, text, htext⟩

/-- Where a component leads up, the check compares names that the directory does not have. -/
example : (load ⟨"w", [(["Cargo.toml"], .file (.text "package.name=\"d\"") false)]⟩ "w"
      ⟨.generate, none, some "gen/../src", [], none⟩).toOption.isSome = true ∧
    Disk.landing [] (Config.directoryParts "gen/../src") = ["src"] := by decide +kernel

end Project

end DisplayGen
