import DisplayGen.Proofs.Extraction
import DisplayGen.Proofs.Marker.Definition
import DisplayGen.Proofs.Resolution
import DisplayGen.Proofs.Source.SimplePath

/-!
# Markers that work

A marker's path is read in four ways: its segments are checked to be identifiers, its name is put into
the definition, the lookup of its struct takes the segments as they stand, and the path of an attribute
is read as source text. `definition_works` says which of the accepted paths are read alike by all four:
those whose segments are plain words. A raw name is defined, but not found under the path; a raw module,
or one with blanks or comments around it, is found, but attributes name something else; and a name with
blanks or comments around it cannot be defined.
-/

namespace DisplayGen

open Source

/-- A struct is found under the path, and an attribute with the same text names it from every module. -/
def Scope.NamesAlike (s : Scope) (path : String) : Prop :=
  ∃ t p, s.structNamed? path = some t ∧ SimplePath.read? path = some p ∧
    ∀ module, s.resolve module p.toWritten = some t

namespace Marker

variable {path : String} {m : Marker} {i : Ident}

theorem parse_ok (h : parse path = .ok m) : m.path = path ∧
    Text.splitPath path = "crate" :: (m.module ++ [m.name]) ∧
    ∀ s ∈ m.module ++ [m.name], Ident.read? s ≠ none := by
  unfold parse at h
  split at h
  · rename_i segments hsplit
    split at h
    · cases h
    · rename_i hgood
      split at h
      · rename_i name hlast
        cases h
        have hsegments : segments.dropLast ++ [name] = segments := by
          obtain ⟨before, rfl⟩ := List.getLast?_eq_some_iff.1 hlast
          rw [List.dropLast_concat]
        refine ⟨rfl, by rw [hsegments]; exact hsplit, ?_⟩
        rw [hsegments]
        intro s hs hnone
        have hgood := List.find?_eq_none.1 hgood s hs
        rw [hnone] at hgood
        exact hgood rfl
      · cases h
  · cases h

/-- What a segment that is written like an identifier is read as. -/
theorem isName_of_parse (h : parse path = .ok m) {s : String} (hs : s ∈ m.module ++ [m.name])
    (hi : i.written = s) : Ident.read? s = some i ∧ i.isName = true := by
  have hread := i.read?_written
  rw [hi] at hread
  by_cases hname : i.isName = true
  · rw [if_pos hname] at hread
    exact ⟨hread, hname⟩
  · rw [if_neg hname] at hread
    exact absurd hread ((parse_ok h).2.2 s hs)

theorem hasExactName_iff :
    m.hasExactName = true ↔ ∃ i, Ident.read? m.name = some i ∧ i.written = m.name := by
  unfold hasExactName
  split
  · rename_i i hread
    simp [hread]
  · rename_i hread
    simp [hread]

/-- The definition can be written if and only if the name stands as an identifier is written. -/
theorem definition_ok_iff (h : parse path = .ok m) :
    (∃ a, m.definition = .ok a) ↔ ∃ i : Ident, i.written = m.name := by
  have hname : m.name ∈ m.module ++ [m.name] := List.mem_append_right _ (List.mem_singleton_self _)
  unfold definition
  by_cases hexact : m.hasExactName = true
  · rw [if_pos hexact]
    obtain ⟨i, -, hi⟩ := hasExactName_iff.1 hexact
    exact ⟨fun _ => ⟨i, hi⟩, fun _ => ⟨_, rfl⟩⟩
  · rw [if_neg hexact]
    constructor
    · rintro ⟨a, ha⟩
      cases ha
    · rintro ⟨i, hi⟩
      exact absurd (hasExactName_iff.2 ⟨i, (isName_of_parse h hname hi).1, hi⟩) hexact

/-- What is defined is the artifact with the struct of the marker's name. -/
theorem definition_ok {a : Artifact} (h : m.definition = .ok a) :
    a = ⟨m.artifactName, m.module, definitionText m.name⟩ := by
  unfold definition at h
  split at h
  · cases h
    rfl
  · cases h

/-! ## The crate with the marker's definition -/

variable {c : Crate} {a : Artifact}

/-- The unit of a marker's definition. -/
def definitionUnit (m : Marker) (i : Ident) : SourceUnit :=
  ⟨m.artifactName, m.module, ⟨[], [structTree i]⟩⟩

/-- The crate with the unit of a marker's definition. -/
def definedIn (m : Marker) (i : Ident) (c : Crate) : Crate :=
  { c with units := c.units ++ [m.definitionUnit i] }

theorem addArtifact_definition (hi : i.written = m.name) (hname : i.isName = true)
    (ha : m.definition = .ok a) (hfree : c.contains a.name = false) :
    c.addArtifact a = .ok (m.definedIn i c) := by
  obtain rfl := definition_ok ha
  exact Crate.add_of_read hfree (hi ▸ read?_definitionText hname) m.module

theorem items_definition (m : Marker) (i : Ident) (c : Crate) :
    ∀ n, n < (m.module ++ [i.name]).length → (m.module ++ [i.name]).take (n + 1) ∈
      (m.definedIn i c).scope.items := by
  intro n hn
  rw [List.length_append, List.length_singleton] at hn
  have hunit : ∀ d, d ∈ Crate.declarationsOfUnit (m.definitionUnit i) →
      d ∈ (m.definedIn i c).declarations :=
    fun d hd => List.mem_flatMap.2
      ⟨m.definitionUnit i, List.mem_append_right _ (List.mem_singleton_self _), hd⟩
  by_cases hmodule : n < m.module.length
  · have htake : (m.module ++ [i.name]).take (n + 1) = m.module.take (n + 1) :=
      List.take_append_of_le_length hmodule
    refine List.mem_filterMap.2 ⟨.item (m.module.take (n + 1)), hunit _ ?_, by rw [htake]⟩
    exact List.mem_append_left _ (List.mem_map.2 ⟨n, List.mem_range.2 hmodule, rfl⟩)
  · have htake : (m.module ++ [i.name]).take (n + 1) = m.module ++ [i.name] :=
      List.take_of_length_le (by rw [List.length_append, List.length_singleton]; omega)
    refine List.mem_filterMap.2 ⟨.struct (m.module ++ [i.name]) (structHead i), hunit _ ?_,
      by rw [htake]⟩
    exact List.mem_append_right _ (List.mem_singleton_self _)

theorem mem_structs_definition (m : Marker) (i : Ident) (c : Crate) :
    ⟨m.module, structHead i⟩ ∈ (m.definedIn i c).structs :=
  List.mem_flatMap.2 ⟨m.definitionUnit i, List.mem_append_right _ (List.mem_singleton_self _),
    List.mem_singleton_self _⟩

/-- An identifier is written as a word if and only if it is not raw. -/
theorem isWord_written (i : Ident) : Text.isWord i.written.toList = true ↔ i.written = i.name := by
  unfold Ident.written
  cases i.raw with
  | false => simpa using i.isWord_name
  | true =>
    have hlength : ("r#" ++ i.name).length ≠ i.name.length := by simp [String.length_append]
    have hchars : ("r#" ++ i.name).toList = 'r' :: '#' :: i.name.toList := by simp
    have hsign : Text.isIdentContinue '#' = false := by decide
    rw [if_pos rfl, hchars]
    constructor
    · intro h
      obtain ⟨c, r, heq, -, hrest⟩ := Text.isWord_iff.1 h
      obtain ⟨-, rfl⟩ := List.cons.inj heq
      rw [hrest '#' (List.mem_cons_self ..)] at hsign
      cases hsign
    · intro h
      exact absurd (congrArg String.length h) hlength

/-- The path leads to a struct of the crate if its segments do. -/
theorem structNamed?_of_parse (h : parse path = .ok m) (hc : c.Built) :
    c.scope.structNamed? path = if m.module ++ [m.name] ∈ c.structs.map DeclaredStruct.path then
      some (c.scope.localSymbol (m.module ++ [m.name])) else none := by
  rw [Crate.structNamed?_eq hc]
  unfold Crate.markerSymbol?
  rw [(parse_ok h).2.1]
  simp only [true_or, true_and]
  rfl

theorem eq_some_of_structNamed? (h : parse path = .ok m) (hc : c.Built)
    (hsome : (c.scope.structNamed? path).isSome) :
    c.scope.structNamed? path = some (c.scope.localSymbol (m.module ++ [m.name])) := by
  rw [structNamed?_of_parse h hc] at hsome ⊢
  split at hsome
  · rename_i hmem
    exact if_pos hmem
  · cases hsome

/-- With the definition added, the path leads to a struct if and only if the name is a plain word. -/
theorem structNamed?_definition (h : parse path = .ok m) (hi : i.written = m.name)
    (hc : (m.definedIn i c).Built) :
    ((m.definedIn i c).scope.structNamed? path).isSome ↔
      Text.isWord m.name.toList = true := by
  rw [structNamed?_of_parse h hc, ← hi, isWord_written]
  constructor
  · intro hsome
    split at hsome
    · rename_i hmem
      obtain ⟨d, -, hd⟩ := List.mem_map.1 hmem
      -- the last name on the path of a struct is that of an identifier
      have hlast : d.head.name.name = i.written := List.cons.inj (List.append_inj_right' hd rfl) |>.1
      rw [← isWord_written, ← hlast]
      exact d.head.name.isWord_name
    · cases hsome
  · intro hplain
    rw [if_pos (List.mem_map.2 ⟨_, mem_structs_definition m i c, by rw [hplain]; rfl⟩)]
    rfl

/-- If lookup and attributes name the same, all segments are plain words. -/
theorem isWord_of_namesAlike (h : parse path = .ok m) (hc : c.Built)
    (halike : c.scope.NamesAlike path) : ∀ s ∈ m.module ++ [m.name], Text.isWord s.toList = true := by
  obtain ⟨t, p, hlookup, -, hresolve⟩ := halike
  have hpath : t.path = m.module ++ [m.name] := by
    cases hlookup.symm.trans (eq_some_of_structNamed? h hc (by rw [hlookup]; rfl))
    rfl
  have hroot : ∀ n ∈ ([] : List String), ∃ i : Ident, i.name = n := by
    intro n hn
    cases hn
  have hnames : ∀ n ∈ t.path, ∃ i : Ident, i.name = n := by
    refine Scope.resolve_names c.scope_imports hroot ?_ (hresolve [])
    intro n hn
    obtain ⟨i, -, hi⟩ := List.mem_map.1 hn
    exact ⟨i, hi⟩
  intro s hs
  rw [← hpath] at hs
  obtain ⟨i, rfl⟩ := hnames s hs
  exact i.isWord_name

/-- The identifiers of words. -/
theorem exists_idents {words : List String} (h : ∀ s ∈ words, Text.isWord s.toList = true) :
    ∃ segments : List Ident, segments.map (·.written) = words ∧ segments.map (·.name) = words := by
  induction words with
  | nil => exact ⟨[], rfl, rfl⟩
  | cons s words ih =>
    obtain ⟨hs, hwords⟩ := List.forall_mem_cons.1 h
    obtain ⟨segments, hwritten, hname⟩ := ih hwords
    have hspelled : isSpelling false s = true := by rw [isSpelling, hs]; rfl
    refine ⟨.plain s hspelled :: segments, ?_, ?_⟩
    · rw [List.map_cons, hwritten]
      rfl
    · rw [List.map_cons, hname]
      rfl

/-- As the path of an attribute, a path of words is read as the names that stand in it. -/
theorem read?_path (h : parse path = .ok m)
    (hwords : ∀ s ∈ m.module ++ [m.name], Text.isWord s.toList = true) :
    ∃ p, SimplePath.read? path = some p ∧ p.toWritten = ⟨false, "crate" :: (m.module ++ [m.name])⟩ := by
  obtain ⟨segments, hwritten, hnames⟩ := exists_idents hwords
  have hname : ∀ i ∈ segments, i.isName = true := fun i hi =>
    (isName_of_parse h (by rw [← hwritten]; exact List.mem_map_of_mem hi) rfl).2
  have htext : path.toList = "crate".toList ++ segmentChars segments := by
    rw [Text.toList_of_splitPath (parse_ok h).2.1, ← hwritten, List.map_map, List.flatMap_map]
    rfl
  refine ⟨_, SimplePath.read?_crate hname htext, ?_⟩
  rw [SimplePath.toWritten, List.map_cons, hnames]
  rfl

/-- Every path that is taken for a marker's: its definition can be written if and only if its name
stands as an identifier is written. Then the definition can be added to every crate that has no unit of
its name; afterwards the path leads to a struct if and only if the name is a plain word, and attributes
with the same text name that struct from every module if and only if all segments are. -/
theorem definition_works (h : parse path = .ok m) :
    ((∃ a, m.definition = .ok a) ↔ ∃ i : Ident, i.written = m.name) ∧
    ∀ (a : Artifact) (c : Crate), m.definition = .ok a → c.Built → c.contains a.name = false →
      ∃ c', c.addArtifact a = .ok c' ∧
        ((c'.scope.structNamed? path).isSome ↔ Text.isWord m.name.toList = true) ∧
        (c'.scope.NamesAlike path ↔ ∀ s ∈ m.module ++ [m.name], Text.isWord s.toList = true) := by
  refine ⟨definition_ok_iff h, fun a c ha hc hfree => ?_⟩
  obtain ⟨i, hi⟩ := (definition_ok_iff h).1 ⟨a, ha⟩
  have hlast : m.name ∈ m.module ++ [m.name] := List.mem_append_right _ (List.mem_singleton_self _)
  have hadd := addArtifact_definition hi (isName_of_parse h hlast hi).2 ha hfree
  have hbuilt := hc.addArtifact hadd
  have hlookup := structNamed?_definition h hi hbuilt
  refine ⟨_, hadd, hlookup, isWord_of_namesAlike h hbuilt, fun hwords => ?_⟩
  obtain ⟨p, hread, hwritten⟩ := read?_path h hwords
  have hname : i.name = m.name := by
    rw [← hi]
    exact ((isWord_written i).1 (by rw [hi]; exact hwords _ hlast)).symm
  have hitems := items_definition m i c
  rw [hname] at hitems
  refine ⟨_, p, eq_some_of_structNamed? h hbuilt (hlookup.2 (hwords _ hlast)), hread, ?_⟩
  rw [hwritten]
  exact Scope.resolve_crate hitems

/-- A marker in a module, in a crate without units. -/
theorem definition_works_demo : ∃ m a c', parse "crate::attributes::Display" = .ok m ∧
    m.definition = .ok a ∧ (⟨"demo", []⟩ : Crate).addArtifact a = .ok c' ∧
    c'.scope.NamesAlike "crate::attributes::Display" := by
  have hparse : (parse "crate::attributes::Display").toOption =
      some ⟨"crate::attributes::Display", ["attributes"], "Display"⟩ := by decide +kernel
  have hm := toOption_eq_some hparse
  obtain ⟨hdefinition, hadd⟩ := definition_works hm
  obtain ⟨a, ha⟩ := hdefinition.2 ⟨.plain "Display", rfl⟩
  have hcreate : Crate.create "demo" = .ok ⟨"demo", []⟩ := rfl
  obtain ⟨c', hc', -, halike⟩ := hadd a _ ha (.create hcreate) rfl
  exact ⟨_, a, c', hm, ha, hc', halike.2 (by decide +kernel)⟩

end Marker

end DisplayGen
