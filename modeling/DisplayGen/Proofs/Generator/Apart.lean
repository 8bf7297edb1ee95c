import DisplayGen.Proofs.Generator.Frame
import DisplayGen.Proofs.Generator.Names

/-!
# Where the names of a run lead

`Run.Keyed r crateName extension m`: what the run has generated is for types of the crate with keys of their
own, and what it has removed was for types with other keys.

* `Keyed.texts`: then a save leaves its text in the file of each artifact of a type. For the marker's file
  that holds unless a name of a type leads there (`Keyed.marker_text_or`).
* `Keyed.apart`: if the marker's module has no slashes, and the crate is not named as markers' files begin,
  no two names of the run lead to one place.
-/

namespace DisplayGen

/-- The keys of two types are the same if their artifacts are at one place. -/
theorem Summary.Belongs.key_eq_of_locate {crateName extension dir : String} {m : Marker} {s t : Summary}
    {d : Disk} {q : List String} (hs : s.Belongs crateName m) (ht : t.Belongs crateName m)
    (hextension : '.' ∉ extension.toList)
    (h : d.locate (joinPaths dir (s.artifactName extension)) = .ok q)
    (h' : d.locate (joinPaths dir (t.artifactName extension)) = .ok q) : s.key = t.key := by
  by_cases hm : ∀ n ∈ m.module, Unslashed n
  · rw [← artifactName_inj]
    exact artifactName_eq_of_locate hextension (hs.unslashed hm) (ht.unslashed hm) h h'
  · rw [hs.own hm, ht.own hm]

namespace Run

variable {r : Run} {crateName extension dir name : String} {m : Marker} {d d' : Disk}

/-- The names of the files of types: those that the run has generated or taken over, and those that it has
removed. -/
def typeNames (r : Run) : List String := r.generated.map (·.artifact.name) ++ r.removed

theorem mem_files : name ∈ r.files ↔
    name = r.marker.name ∨ name ∈ r.typeNames ∨ name = Manifest.fileName := by
  unfold files typeNames artifacts
  simp only [List.map_cons, List.map_map, List.mem_append, List.mem_cons, List.not_mem_nil, or_false,
    or_assoc]
  rfl

/-- The names of a run are those of types of the crate: all that it has generated is for keys of its own,
and what it has removed was for others. -/
structure Keyed (r : Run) (crateName extension : String) (m : Marker) : Prop where
  marker : m.definition = .ok r.marker
  keys : (r.generated.map Generated.key).Nodup
  names : ∀ x ∈ r.generated, x.artifact.name = x.summary.artifactName extension
  belongs : ∀ x ∈ r.generated, x.summary.Belongs crateName m
  removed : ∀ n ∈ r.removed, ∃ s : Summary, n = s.artifactName extension ∧ s.Belongs crateName m ∧
    s.key ∉ r.generated.map Generated.key

namespace Keyed

theorem exists_summary (h : r.Keyed crateName extension m) (hname : name ∈ r.typeNames) :
    ∃ s : Summary, name = s.artifactName extension ∧ s.Belongs crateName m := by
  rcases List.mem_append.1 hname with hname | hname
  · obtain ⟨x, hx, rfl⟩ := List.mem_map.1 hname
    exact ⟨x.summary, h.names x hx, h.belongs x hx⟩
  · obtain ⟨s, hs, hbelongs, -⟩ := h.removed name hname
    exact ⟨s, hs, hbelongs⟩

theorem marker_name (h : r.Keyed crateName extension m) : r.marker.name = m.artifactName := by
  rw [Marker.definition_ok h.marker]

/-- What is removed has none of the names that were generated. -/
theorem not_mem_removed (h : r.Keyed crateName extension m) {x : Generated} (hx : x ∈ r.generated) :
    x.artifact.name ∉ r.removed := by
  intro hmem
  obtain ⟨s, hs, -, hgone⟩ := h.removed _ hmem
  rw [h.names x hx, Summary.artifactName_inj] at hs
  exact hgone (List.mem_map.2 ⟨x, hx, hs⟩)

/-- The marker's file and the manifest have places of their own. -/
theorem marker_manifest (h : r.Keyed crateName extension m) :
    ¬ d.SamePlace (joinPaths dir r.marker.name) (Manifest.pathIn dir) := by
  rintro ⟨q, hne, hq, hq'⟩
  rw [h.marker_name] at hq
  have hlast := Disk.locate_joinPaths (Summary.isPlainName_marker h.marker) hq hne
  rw [Disk.locate_joinPaths Summary.isPlainName_manifest hq' hne] at hlast
  exact Summary.markerName_ne_fileName m (Option.some.inj hlast).symm

/-- After a save, the marker's file holds its text, unless the name of a type leads there. -/
theorem marker_text_or (h : r.Keyed crateName extension m)
    (hsave : (r.save crateName extension dir).outcome d = (.ok (), d')) :
    d'.readText (joinPaths dir r.marker.name) = .ok r.marker.text ∨
      ∃ n ∈ r.typeNames, d'.SamePlace (joinPaths dir r.marker.name) (joinPaths dir n) := by
  by_cases hclash : ∃ n ∈ r.typeNames, d'.SamePlace (joinPaths dir r.marker.name) (joinPaths dir n)
  · exact .inr hclash
  refine .inl (Run.save_text hsave (List.nil_append _).symm (fun b hb hplace => hclash ?_)
    (fun n hn hplace => hclash ?_) h.marker_manifest)
  · obtain ⟨x, hx, rfl⟩ := List.mem_map.1 hb
    exact ⟨_, List.mem_append_left _ (List.mem_map_of_mem hx), hplace⟩
  · exact ⟨n, List.mem_append_right _ hn, hplace⟩

section

variable (hextension : '.' ∉ extension.toList) (h : r.Keyed crateName extension m)

include hextension h

/-- No two names of types lead to one place. -/
theorem types_apart {name' : String} (hname : name ∈ r.typeNames) (hname' : name' ∈ r.typeNames)
    (hplace : d.SamePlace (joinPaths dir name) (joinPaths dir name')) : name = name' := by
  obtain ⟨s, rfl, hs⟩ := h.exists_summary hname
  obtain ⟨t, rfl, ht⟩ := h.exists_summary hname'
  obtain ⟨q, -, hq, hq'⟩ := hplace
  exact Summary.artifactName_inj.2 (hs.key_eq_of_locate ht hextension hq hq')

/-- The name of a type does not lead to the manifest. -/
theorem type_manifest (hname : name ∈ r.typeNames) {text : String}
    (htext : d.readText (Manifest.pathIn dir) = .ok text) :
    ¬ d.SamePlace (joinPaths dir name) (Manifest.pathIn dir) := by
  rintro ⟨q, -, hq, hq'⟩
  obtain ⟨s, rfl, -⟩ := h.exists_summary hname
  obtain ⟨q₁, hq₁, hfile⟩ := Disk.hasFile_of_readText htext
  rw [hq'] at hq₁
  cases hq₁
  exact Summary.not_hasFile_manifest hextension hq hq' hfile

variable (hsave : (r.save crateName extension dir).outcome d = (.ok (), d'))

include hsave

/-- After a save, the files of the artifacts of types hold their texts. -/
theorem texts : ∀ x ∈ r.generated, d'.readText (joinPaths dir x.artifact.name) = .ok x.artifact.text := by
  intro x hx
  have hgenerated : ∀ y ∈ r.generated, y.artifact.name ∈ r.typeNames :=
    fun y hy => List.mem_append_left _ (List.mem_map_of_mem hy)
  obtain ⟨before, after, heq⟩ := List.append_of_mem hx
  have hartifacts : r.artifacts = (r.marker :: before.map (·.artifact)) ++
      x.artifact :: after.map (·.artifact) := by
    unfold Run.artifacts
    rw [heq, List.map_append, List.map_cons, List.cons_append]
  refine Run.save_text hsave hartifacts (fun b hb hplace => ?_) (fun n hn hplace => ?_) ?_
  · obtain ⟨y, hy, rfl⟩ := List.mem_map.1 hb
    have hy' : y ∈ r.generated := heq ▸ List.mem_append_right _ (List.mem_cons_of_mem x hy)
    have hname := h.types_apart hextension (hgenerated x hx) (hgenerated y hy') hplace
    rw [h.names x hx, h.names y hy', Summary.artifactName_inj] at hname
    have hkeys := h.keys
    rw [heq, List.map_append, List.map_cons] at hkeys
    have hlater := (List.nodup_cons.1 (List.nodup_append.1 hkeys).2.1).1
    exact hlater (List.mem_map.2 ⟨y, hy, hname.symm⟩)
  · have hname := h.types_apart hextension (hgenerated x hx) (List.mem_append_right _ hn) hplace
    exact h.not_mem_removed hx (hname ▸ hn)
  · exact h.type_manifest hextension (hgenerated x hx) (Run.save_manifest hsave)

/-- After a save, nothing is found under a name that was removed. -/
theorem contains_removed (hname : name ∈ r.removed) : d'.contains (joinPaths dir name) = false := by
  have htext := Run.save_manifest hsave
  obtain ⟨q₁, hq₁, hfile⟩ := Disk.hasFile_of_readText htext
  refine Run.contains_removed hsave hname fun q hq hq' => ?_
  rw [hq₁] at hq'
  cases hq'
  exact h.type_manifest hextension (List.mem_append_right _ hname) htext ⟨_, hfile.ne_nil, hq, hq₁⟩

end

section

variable (hword : Text.isWord crateName.toList = true) (hcrate : crateName ≠ "__strgen_marker")
  (h : r.Keyed crateName extension m)

include hword hcrate h

/-- The marker's file has the name of no type. -/
theorem marker_not_mem_typeNames : r.marker.name ∉ r.typeNames := by
  intro hmem
  obtain ⟨s, hs, hbelongs⟩ := h.exists_summary hmem
  rw [h.marker_name] at hs
  exact hcrate (Summary.crateName_eq_of_name hword (hbelongs.key_eq hword) hs.symm)

variable (hextension : '.' ∉ extension.toList) (hmodule : ∀ n ∈ m.module, Unslashed n)

include hextension hmodule

/-- If the marker's module has no slashes, no name of a type leads to the marker's file. -/
theorem marker_apart (hname : name ∈ r.typeNames) :
    ¬ d.SamePlace (joinPaths dir r.marker.name) (joinPaths dir name) := by
  rintro ⟨q, -, hq, hq'⟩
  obtain ⟨s, rfl, hs⟩ := h.exists_summary hname
  rw [h.marker_name] at hq
  exact hcrate (Summary.crateName_eq_of_locate hword (hs.key_eq hword) h.marker hextension
    (hs.unslashed hmodule) hq' hq)

theorem marker_text (hsave : (r.save crateName extension dir).outcome d = (.ok (), d')) :
    d'.readText (joinPaths dir r.marker.name) = .ok r.marker.text := by
  rcases h.marker_text_or hsave with htext | ⟨n, hn, hplace⟩
  · exact htext
  · exact absurd hplace (h.marker_apart hword hcrate hextension hmodule hn)

/-- If the marker's module has no slashes, no two names of the run lead to one place. -/
theorem apart {text : String} (htext : d.readText (Manifest.pathIn dir) = .ok text) :
    r.Apart d dir := by
  have hmarker : ∀ n ∈ r.typeNames,
      ¬ d.SamePlace (joinPaths dir r.marker.name) (joinPaths dir n) :=
    fun n => h.marker_apart hword hcrate hextension hmodule
  have hmanifest : ∀ n ∈ r.typeNames, ¬ d.SamePlace (joinPaths dir n) (Manifest.pathIn dir) :=
    fun n hn => h.type_manifest hextension hn htext
  have hswap : ∀ {path path' : String}, d.SamePlace path path' → d.SamePlace path' path :=
    fun ⟨q, hne, hq, hq'⟩ => ⟨q, hne, hq', hq⟩
  intro n hn n' hn' hplace
  rcases mem_files.1 hn with rfl | hn | rfl
  · rcases mem_files.1 hn' with rfl | hn' | rfl
    · rfl
    · exact absurd hplace (hmarker n' hn')
    · exact absurd hplace h.marker_manifest
  · rcases mem_files.1 hn' with rfl | hn' | rfl
    · exact absurd (hswap hplace) (hmarker n hn)
    · exact h.types_apart hextension hn hn' hplace
    · exact absurd hplace (hmanifest n hn)
  · rcases mem_files.1 hn' with rfl | hn' | rfl
    · exact absurd (hswap hplace) h.marker_manifest
    · exact absurd (hswap hplace) (hmanifest n' hn')
    · rfl

end

end Keyed

end Run

/-- A run is keyed if its generator's cache is one of types of the crate, and what it generates for too. -/
theorem Generator.keyed_run {g : Generator} {c : Crate} {r : Run} {crateName : String}
    (hr : (g.run c).result = .ok r) (hnamed : g.Named)
    (hcache : ∀ y ∈ g.cache.entries, y.summary.Belongs crateName g.marker)
    (hbelongs : ∀ x ∈ r.generated, x.summary.Belongs crateName g.marker) :
    r.Keyed crateName g.extension g.marker := by
  obtain ⟨marked, progress, hsteps⟩ := run_ok hr
  obtain ⟨hkeys, hmakes, -⟩ := run_makes hr
  refine ⟨hsteps.definition, hkeys, fun x hx => (hmakes x hx).name_eq hnamed, hbelongs, fun n hn => ?_⟩
  obtain ⟨y, hy, hgone, rfl⟩ := (mem_removed hr).1 hn
  exact ⟨y.summary, hnamed y hy, hcache y hy, hgone⟩

end DisplayGen
