import DisplayGen.Project
import DisplayGen.Proofs.Disk.Files
import DisplayGen.Proofs.Extraction.Origin
import DisplayGen.Proofs.Generator.Seeded
import DisplayGen.Proofs.Generator.Stored

/-!
# Where artifacts are put

The name of an artifact is the key of its type, with `.g.` and the extension behind it. An extension has no
points, but it may have slashes, and then the file is not in the output directory itself.

* `Summary.artifactName_eq_of_locate`: artifacts of types whose keys have no slashes are at one place only
  if their names are the same.
* `Summary.crateName_eq_of_locate`: they are at the place of a marker's file only if the crate has the name
  that such files begin with.
* `Summary.not_hasFile_manifest`: no artifact is at the place of the manifest.
* `Generator.run_belongs`: what the keys of the types look like that a run generates for.
-/

namespace DisplayGen

variable {d : Disk} {dir extension crateName : String} {q : List String}

theorem Config.extension_of_validate {c : Config} (h : c.validate = .ok ()) :
    '.' ∉ c.artifactExtension.toList := by
  unfold validate at h
  obtain ⟨_, -, h⟩ := bind_ok h
  obtain ⟨_, hextension, -⟩ := bind_ok h
  unfold checkExtension at hextension
  split at hextension
  · cases hextension
  · rename_i hgood
    rw [Bool.or_eq_true, not_or, List.contains_iff_mem] at hgood
    exact hgood.2

namespace Summary

variable {s t : Summary}

/-! ## Artifacts beside artifacts -/

theorem toList_artifactName (s : Summary) (extension : String) :
    (s.artifactName extension).toList = s.key.toList ++ '.' :: 'g' :: '.' :: extension.toList := by
  have hinfix : ".g.".toList = ['.', 'g', '.'] := rfl
  rw [artifactName, String.toList_append, String.toList_append, hinfix, List.append_assoc]
  rfl

/-- The pieces of an artifact's name: the key goes on the first one of the extension. -/
theorem splitSlashes_artifactName (h : Unslashed s.key) {first : List Char} {rest : List (List Char)}
    (hextension : splitSlashes extension.toList = first :: rest) :
    splitSlashes (s.artifactName extension).toList =
      (s.key.toList ++ '.' :: 'g' :: '.' :: first) :: rest := by
  have hplain : '/' ∉ s.key.toList ++ ['.', 'g', '.'] := by
    rw [List.mem_append, not_or]
    exact ⟨h, by decide⟩
  have hsplit := splitSlashes_plain_append hplain hextension
  rw [List.append_assoc, List.append_assoc] at hsplit
  rw [toList_artifactName]
  exact hsplit

theorem plain_of_length {piece : List Char} (h : 2 < piece.length) :
    piece ∉ [[], ['.'], ['.', '.']] := by
  intro hmem
  simp only [List.mem_cons, List.not_mem_nil, or_false] at hmem
  rcases hmem with rfl | rfl | rfl
  all_goals simp at h

/-- An extension without points leads nowhere up. -/
theorem parent_not_mem (hextension : '.' ∉ extension.toList) {first : List Char}
    {rest : List (List Char)} (hsplit : splitSlashes extension.toList = first :: rest) :
    ['.', '.'] ∉ rest :=
  fun hmem => hextension
    (mem_splitSlashes (hsplit ▸ List.mem_cons_of_mem first hmem) (List.mem_cons_self ..)).1

/-- Artifacts of types whose keys have no slashes are at one place only if their names are the same. -/
theorem artifactName_eq_of_locate (hextension : '.' ∉ extension.toList) (hs : Unslashed s.key)
    (ht : Unslashed t.key) (h : d.locate (joinPaths dir (s.artifactName extension)) = .ok q)
    (h' : d.locate (joinPaths dir (t.artifactName extension)) = .ok q) :
    s.artifactName extension = t.artifactName extension := by
  obtain ⟨first, rest, hsplit⟩ := List.exists_cons_of_ne_nil (splitSlashes_ne_nil extension.toList)
  have hplain : ∀ key : List Char, key ++ '.' :: 'g' :: '.' :: first ∉ [[], ['.'], ['.', '.']] := by
    intro key
    refine plain_of_length ?_
    simp only [List.length_append, List.length_cons]
    omega
  have hrest := parent_not_mem hextension hsplit
  have hfirst := Disk.first_eq_of_locate (splitSlashes_artifactName hs hsplit)
    (splitSlashes_artifactName ht hsplit) (hplain _) (hplain _) hrest hrest h h'
  rw [artifactName_inj]
  exact String.toList_injective (List.append_cancel_right hfirst)

/-! ## Artifacts and markers' files -/

theorem unslashed_markerName {m : Marker} {a : Artifact} (h : m.definition = .ok a) :
    Unslashed m.artifactName := by
  have hname : Unslashed m.name := by
    unfold Marker.definition at h
    split at h
    · rename_i hexact
      obtain ⟨i, -, hi⟩ := Marker.hasExactName_iff.1 hexact
      rw [← hi]
      unfold Source.Ident.written
      split
      · exact Unslashed.append (by unfold Unslashed; decide) i.unslashed
      · exact i.unslashed
    · cases h
  exact Unslashed.append (Unslashed.append (by unfold Unslashed; decide) hname)
    (by unfold Unslashed; decide)

theorem toList_markerName (m : Marker) : m.artifactName.toList =
    "__strgen_marker".toList ++ '.' :: (m.name.toList ++ ".g.rs".toList) := by
  have hstart : "__strgen_marker.".toList = "__strgen_marker".toList ++ ['.'] := rfl
  -- a rewriting would try to read the literals as two texts put together
  calc m.artifactName.toList
      = ("__strgen_marker." ++ m.name).toList ++ ".g.rs".toList := String.toList_append ..
    _ = "__strgen_marker.".toList ++ m.name.toList ++ ".g.rs".toList :=
        congrArg (· ++ ".g.rs".toList) (String.toList_append ..)
    _ = "__strgen_marker.".toList ++ (m.name.toList ++ ".g.rs".toList) := List.append_assoc ..
    _ = "__strgen_marker".toList ++ ['.'] ++ (m.name.toList ++ ".g.rs".toList) :=
        congrArg (· ++ (m.name.toList ++ ".g.rs".toList)) hstart
    _ = "__strgen_marker".toList ++ '.' :: (m.name.toList ++ ".g.rs".toList) := List.append_assoc ..

theorem isPlainName_marker {m : Marker} {a : Artifact} (h : m.definition = .ok a) :
    IsPlainName m.artifactName := by
  refine ⟨unslashed_markerName h, plain_of_length ?_⟩
  have hlength : "__strgen_marker".toList.length = 15 := rfl
  rw [toList_markerName, List.length_append]
  omega

section

variable (hcrate : Text.isWord crateName.toList = true)
  (hkey : ∃ t, s.key.toList = crateName.toList ++ '.' :: t)

include hcrate hkey

/-- An artifact has the name of a marker's file only if the crate has the name that such files begin with.
-/
theorem crateName_eq_of_name {m : Marker} (h : s.artifactName extension = m.artifactName) :
    crateName = "__strgen_marker" := by
  obtain ⟨t, ht⟩ := hkey
  have hname := congrArg String.toList h
  rw [toList_artifactName, toList_markerName, ht, List.append_assoc, List.cons_append] at hname
  exact String.toList_injective (Text.eq_of_append_cons (Text.not_mem_of_isWord hcrate) (by decide) hname)

/-- An artifact is at the place of a marker's file only if the crate has the name that such files begin
with. -/
theorem crateName_eq_of_locate {m : Marker} {a : Artifact} (hm : m.definition = .ok a)
    (hextension : '.' ∉ extension.toList) (hs : Unslashed s.key)
    (h : d.locate (joinPaths dir (s.artifactName extension)) = .ok q)
    (h' : d.locate (joinPaths dir m.artifactName) = .ok q) : crateName = "__strgen_marker" := by
  obtain ⟨t, ht⟩ := hkey
  obtain ⟨first, rest, hsplit⟩ := List.exists_cons_of_ne_nil (splitSlashes_ne_nil extension.toList)
  have hplain : s.key.toList ++ '.' :: 'g' :: '.' :: first ∉ [[], ['.'], ['.', '.']] := by
    refine plain_of_length ?_
    simp only [List.length_append, List.length_cons]
    omega
  have hmarker := isPlainName_marker hm
  have hfirst := Disk.first_eq_of_locate (splitSlashes_artifactName hs hsplit)
    (splitSlashes_plain hmarker.1) hplain hmarker.2 (parent_not_mem hextension hsplit)
    List.not_mem_nil h h'
  rw [ht, toList_markerName, List.append_assoc, List.cons_append] at hfirst
  exact String.toList_injective (Text.eq_of_append_cons (Text.not_mem_of_isWord hcrate) (by decide) hfirst)

end

/-! ## Artifacts and the manifest -/

theorem isPlainName_manifest : IsPlainName Manifest.fileName := by
  refine ⟨?_, plain_of_length ?_⟩
  all_goals decide

theorem markerName_ne_fileName (m : Marker) : m.artifactName ≠ Manifest.fileName := by
  intro h
  have hlist := congrArg String.toList h
  rw [toList_markerName] at hlist
  have hfirst : some '_' = some 'm' := congrArg List.head? hlist
  cases hfirst

/-- The last piece of the path of an artifact: it is empty, or a plain name that has not one point. -/
theorem exists_last_piece (hextension : '.' ∉ extension.toList) (dir : String) (s : Summary) :
    (∃ a, (joinPaths dir (s.artifactName extension)).toList = a ++ ['/']) ∨
      ∃ piece, (splitSlashes (joinPaths dir (s.artifactName extension)).toList).getLast? = some piece ∧
        piece ∉ [[], ['.'], ['.', '.']] ∧ piece.count '.' ≠ 1 := by
  obtain ⟨before, hpath⟩ := toList_joinPaths dir (s.artifactName extension)
  rw [toList_artifactName, ← List.append_assoc] at hpath
  rw [hpath]
  rcases exists_last_slash extension.toList with hplain | ⟨a, piece, heq, hpiece⟩
  · -- the last piece has the whole extension
    have hend : '/' ∉ '.' :: 'g' :: '.' :: extension.toList := by simpa using hplain
    have hlast : ∀ k : List Char, k ++ '.' :: 'g' :: '.' :: extension.toList ∉ [[], ['.'], ['.', '.']] ∧
        (k ++ '.' :: 'g' :: '.' :: extension.toList).count '.' ≠ 1 := by
      intro k
      constructor
      · refine plain_of_length ?_
        simp only [List.length_append, List.length_cons]
        omega
      · simp only [List.count_append, List.count_cons, beq_self_eq_true, if_true]
        omega
    rcases exists_last_slash (before ++ s.key.toList) with hplain | ⟨a, k, heq, hk⟩
    · refine .inr ⟨_, ?_, hlast (before ++ s.key.toList)⟩
      rw [splitSlashes_plain (List.not_mem_append hplain hend)]
      rfl
    · rw [heq, List.append_assoc, List.cons_append]
      exact .inr ⟨_, getLast?_splitSlashes a (List.not_mem_append hk hend), hlast k⟩
  · have hpoint : '.' ∉ piece := by
      intro hmem
      rw [heq] at hextension
      exact hextension (List.mem_append_right a (List.mem_cons_of_mem _ hmem))
    have hassoc : before ++ s.key.toList ++ '.' :: 'g' :: '.' :: (a ++ '/' :: piece) =
        (before ++ s.key.toList ++ '.' :: 'g' :: '.' :: a) ++ '/' :: piece := by simp
    rw [heq, hassoc]
    cases piece with
    | nil => exact .inl ⟨_, rfl⟩
    | cons c piece =>
      refine .inr ⟨_, getLast?_splitSlashes _ hpiece, ?_, ?_⟩
      · intro hmem
        simp only [List.mem_cons, List.not_mem_nil, or_false, reduceCtorEq, false_or] at hmem
        rcases hmem with heq | heq
        all_goals exact hpoint (heq ▸ List.mem_cons_self ..)
      · rw [List.count_eq_zero.2 hpoint]
        decide

/-- No artifact is at the place of the manifest. -/
theorem not_hasFile_manifest (hextension : '.' ∉ extension.toList)
    (h : d.locate (joinPaths dir (s.artifactName extension)) = .ok q)
    (h' : d.locate (Manifest.pathIn dir) = .ok q) : ¬ d.HasFile q := by
  intro hfile
  have hlast := Disk.locate_joinPaths isPlainName_manifest h' hfile.ne_nil
  rcases exists_last_piece hextension dir s with ⟨a, hslash⟩ | ⟨piece, hpiece, hplain, hcount⟩
  · obtain ⟨content, written, hnode⟩ := hfile
    rw [Disk.node?_of_last_slash h hslash] at hnode
    cases hnode
  · rw [Disk.locate_last h hfile.ne_nil hpiece hplain] at hlast
    have hname := congrArg String.toList (Option.some.inj hlast)
    rw [String.toList_ofList] at hname
    rw [hname] at hcount
    exact hcount (by decide)

end Summary

/-! ## What a run generates for -/

theorem Project.loadCrate_ok {p : Project} {c : Crate} (h : p.loadCrate d = .ok c) :
    c.Built ∧ c.name = p.crateName ∧ c.FromFiles := by
  unfold loadCrate at h
  rw [withContext_ok, ofGeneration_ok] at h
  exact ⟨.load h, Crate.load_ok h⟩

namespace Generator

variable {g : Generator} {c : Crate} {r : Run}

/-- The keys of the types that a run generates for. -/
theorem run_belongs (hparse : Marker.parse g.marker.path = .ok g.marker) (hc : c.Built)
    (hunits : c.FromFiles) (hname : Text.isWord c.name.toList = true)
    (hr : (g.run c).result = .ok r) : ∀ x ∈ r.generated, x.summary.Belongs c.name g.marker := by
  obtain ⟨marked, p, hsteps⟩ := Generator.run_ok hr
  obtain ⟨i, hi⟩ := (Marker.definition_ok_iff hparse).1 ⟨_, hsteps.definition⟩
  have hlast : g.marker.name ∈ g.marker.module ++ [g.marker.name] :=
    List.mem_append_right _ (List.mem_singleton_self _)
  have hadd := Marker.addArtifact_definition hi (Marker.isName_of_parse hparse hlast hi).2
    hsteps.definition hsteps.free
  have hmarked : marked = g.marker.definedIn i c := Except.ok.inj (hsteps.addMarker.symm.trans hadd)
  have hbuilt : marked.Built := hc.addArtifact hsteps.addMarker
  rw [hmarked] at hbuilt
  intro x hx
  refine Crate.belongs_of_mem_summaries hparse hi hbuilt hunits hname ?_
  rw [← hmarked, ← hsteps.advances.1]
  exact List.mem_map_of_mem hx

end Generator

/-- If the path of a marker has no slashes, its module has none. -/
theorem Marker.unslashed_module {path : String} {m : Marker} (h : Marker.parse path = .ok m)
    (hpath : Unslashed path) : ∀ n ∈ m.module, Unslashed n := by
  intro n hn
  refine Text.unslashed_of_splitPath hpath ?_
  rw [(Marker.parse_ok h).2.1]
  exact List.mem_cons_of_mem _ (List.mem_append_left _ hn)

/-- The keys of the types of a project that a run generates for. -/
theorem Project.run_belongs {p : Project} {g : Generator} {c : Crate} {r : Run}
    (hparse : Marker.parse p.config.markerPath = .ok g.marker)
    (hcrate : Text.isWord p.crateName.toList = true) (hload : p.loadCrate d = .ok c)
    (hr : (g.run c).result = .ok r) : ∀ x ∈ r.generated, x.summary.Belongs p.crateName g.marker := by
  obtain ⟨hbuilt, hname, hunits⟩ := loadCrate_ok hload
  rw [← (Marker.parse_ok hparse).1] at hparse
  rw [← hname] at hcrate ⊢
  exact Generator.run_belongs hparse hbuilt hunits hcrate hr

end DisplayGen
