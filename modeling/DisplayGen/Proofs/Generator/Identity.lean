import DisplayGen.Proofs.Extraction.Nested
import DisplayGen.Proofs.Generator.Run
import DisplayGen.Proofs.ModulePath

/-!
# Artifacts are as distinct as symbols

The name of an artifact is made of the names on the path of its type, with points between them; its module
is found by cutting the path again. Identifiers hold neither points nor colons, so nothing is lost where the
crate and its modules are named by identifiers.

* `Crate.reported`: the structs whose summaries extraction gives.
* `Crate.key_of_reported`, `Crate.modulePath_of_reported`: the key and the module of such a summary.
* `Generator.artifacts_as_symbols`: two of them have artifacts of one name if and only if they have one
  symbol, and a run stops for that reason only.
-/

namespace DisplayGen

open Source

/-! ## Identifiers -/

/-- The text is an identifier, raw or not. -/
def Source.IsIdentifier (s : String) : Prop := ∃ i : Ident, i.written = s

namespace Source.IsIdentifier

variable {s : String} {c : Char}

theorem name (i : Ident) : IsIdentifier i.name :=
  ⟨.plain i.name (by unfold isSpelling; rw [i.isWord_name]; rfl), rfl⟩

theorem not_mem (h : IsIdentifier s) (hstart : Text.isIdentStart c = false := by decide)
    (hgoOn : Text.isIdentContinue c = false := by decide) (hraw : c ∉ "r#".toList := by decide) :
    c ∉ s.toList := by
  obtain ⟨i, rfl⟩ := h
  have hname : c ∉ i.name.toList := Text.not_mem_of_isWord i.isWord_name hstart hgoOn
  unfold Ident.written
  split
  · rw [String.toList_append, List.mem_append, not_or]
    exact ⟨hraw, hname⟩
  · exact hname

end Source.IsIdentifier

/-! ## Symbols that are reported -/

/-- What a candidate declares, if it carries the marker with the given qualified name. -/
def Candidate.reported? (d : Candidate) (s : Scope) (marker : String) : Option TypeSymbol :=
  match d.symbol? s, s.structNamed? marker with
  | some t, some m => if (t.attributeClasses s).contains m then some t else none
  | _, _ => none

/-- The structs of a crate that carry the marker, in source order. -/
def Crate.reported (c : Crate) (marker : String) : List TypeSymbol :=
  c.candidates.filterMap fun d => d.reported? c.scope marker

namespace Candidate

variable {d : Candidate} {s : Scope} {marker : String} {t : TypeSymbol}

theorem summary?_eq_map : d.summary? s marker = (d.reported? s marker).map TypeSymbol.summary := by
  unfold summary? reported?
  cases d.symbol? s with
  | none => rfl
  | some t =>
    cases s.structNamed? marker with
    | none => rfl
    | some m =>
      dsimp only
      rw [apply_ite (Option.map TypeSymbol.summary)]
      rfl

theorem symbol?_of_reported? (h : d.reported? s marker = some t) : d.symbol? s = some t := by
  unfold reported? at h
  split at h
  · rename_i hsymbol _
    split at h
    · cases h
      exact hsymbol
    · cases h
  · cases h

theorem symbol?_eq_some (h : d.symbol? s = some t) :
    t = ⟨s.localSymbol (d.module ++ [d.head.name.name]), d.module, d.head⟩ := by
  unfold symbol? at h
  dsimp only at h
  split at h
  · exact (Option.some.inj h).symm
  · cases h

end Candidate

namespace Crate

variable {c : Crate} {marker : String} {t : TypeSymbol}

theorem summaries_eq_reported (c : Crate) (marker : String) :
    c.summaries marker = (c.reported marker).map TypeSymbol.summary := by
  unfold summaries reported
  rw [List.map_filterMap]
  exact List.filterMap_congr fun d _ => Candidate.summary?_eq_map

theorem mem_reported (h : t ∈ c.reported marker) :
    ∃ d ∈ c.candidates, d.symbol? c.scope = some t ∧ d.module = t.module := by
  obtain ⟨d, hd, hreported⟩ := List.mem_filterMap.1 h
  have hsymbol := Candidate.symbol?_of_reported? hreported
  exact ⟨d, hd, hsymbol, by rw [Candidate.symbol?_eq_some hsymbol]⟩

/-- A symbol is the path of its struct in the crate. -/
theorem id_of_reported (h : t ∈ c.reported marker) : t.id = ⟨c.name, t.module ++ [t.name]⟩ := by
  obtain ⟨d, -, hsymbol, -⟩ := mem_reported h
  rw [Candidate.symbol?_eq_some hsymbol]
  rfl

/-- The symbol has the module and the name of its struct, and nothing besides. -/
theorem id_eq_iff {t' : TypeSymbol} (h : t ∈ c.reported marker) (h' : t' ∈ c.reported marker) :
    t.id = t'.id ↔ t.module = t'.module ∧ t.name = t'.name := by
  rw [id_of_reported h, id_of_reported h', Symbol.mk.injEq, List.append_singleton_inj]
  exact and_iff_right rfl

theorem namespaceName_of_reported (h : t ∈ c.reported marker) :
    t.summary.namespaceName = Text.joinPath (c.name :: t.module) := by
  unfold TypeSymbol.summary TypeSymbol.containingNamespace qualifiedModule
  rw [id_of_reported h]

/-- What holds of the names of units' modules and of identifiers holds of the names of a candidate's
module. -/
theorem module_candidates {P : String → Prop} (hident : ∀ i : Ident, P i.name)
    (hunits : ∀ u ∈ c.units, ∀ n ∈ u.module, P n) : ∀ d ∈ c.candidates, ∀ n ∈ d.module, P n := by
  intro d hd
  obtain ⟨u, hu, hd⟩ := List.mem_flatMap.1 hd
  rw [u.candidates_eq] at hd
  obtain ⟨p, -, rfl⟩ := List.mem_map.1 hd
  refine List.forall_mem_append.2 ⟨hunits u hu, fun n hn => ?_⟩
  obtain ⟨label, -, hlabel⟩ := List.mem_filterMap.1 hn
  unfold Label.inlineName? at hlabel
  split at hlabel
  · cases hlabel
    exact hident _
  · cases hlabel

/-! ## Names of artifacts -/

section

variable (hname : IsIdentifier c.name) (hunits : ∀ u ∈ c.units, ∀ n ∈ u.module, IsIdentifier n)

include hname hunits

theorem isIdentifier_reported (h : t ∈ c.reported marker) :
    ∀ n ∈ c.name :: t.module, IsIdentifier n := by
  obtain ⟨d, hd, -, hmodule⟩ := mem_reported h
  rw [← hmodule]
  exact List.forall_mem_cons.2 ⟨hname, module_candidates IsIdentifier.name hunits d hd⟩

/-- The key of a type is its path, with points. -/
theorem key_of_reported (h : t ∈ c.reported marker) :
    t.summary.key = Text.joinWith "." ((c.name :: t.module) ++ [t.name]) := by
  have hcolons : ∀ n ∈ c.name :: t.module, ':' ∉ n.toList :=
    fun n hn => (isIdentifier_reported hname hunits h n hn).not_mem
  unfold Summary.key
  rw [namespaceName_of_reported h, Text.dotted_joinPath hcolons,
    Text.joinWith_concat "." t.name (List.cons_ne_nil c.name t.module)]
  rfl

/-- Types have one key if they have one symbol, and only then. -/
theorem key_eq_iff {t' : TypeSymbol} (h : t ∈ c.reported marker) (h' : t' ∈ c.reported marker) :
    t.summary.key = t'.summary.key ↔ t.id = t'.id := by
  have hpoint : ∀ {t : TypeSymbol}, t ∈ c.reported marker →
      ∀ n ∈ (c.name :: t.module) ++ [t.name], '.' ∉ n.toList := by
    intro t h
    refine List.forall_mem_append.2 ⟨fun n hn => (isIdentifier_reported hname hunits h n hn).not_mem,
      List.forall_mem_singleton.2 (IsIdentifier.name t.head.name).not_mem⟩
  rw [key_of_reported hname hunits h, key_of_reported hname hunits h',
    Text.joinWith_inj rfl (by simp) (hpoint h) (by simp) (hpoint h'), id_of_reported h, id_of_reported h']
  simp

/-- The module of a summary is that of its struct. -/
theorem modulePath_of_reported (h : t ∈ c.reported marker) : t.summary.modulePath = t.module := by
  have hsegments : ∀ n ∈ c.name :: t.module, Text.Segment n.toList :=
    fun n hn => Text.segment_of_not_mem (isIdentifier_reported hname hunits h n hn).not_mem
  unfold Summary.modulePath
  rw [namespaceName_of_reported h, Text.splitPath_joinPath (List.cons_ne_nil c.name t.module) hsegments]
  rfl

end

end Crate

/-! ## Collisions -/

namespace Generator

variable {c : Crate}

/-- In a crate that is named by an identifier, as are the modules of its units, the artifacts of two marked
structs have one name if and only if the structs have one symbol, which is one module and one name. What is
emitted for a struct belongs to the module that declares it. So a run stops for the names of its artifacts if
and only if two of the marked structs have one symbol. -/
theorem artifacts_as_symbols (g : Generator) (hname : IsIdentifier c.name)
    (hunits : ∀ u ∈ c.units, ∀ n ∈ u.module, IsIdentifier n) :
    c.summaries g.marker.path = (c.reported g.marker.path).map TypeSymbol.summary ∧
    (∀ t ∈ c.reported g.marker.path, ∀ t' ∈ c.reported g.marker.path,
      (t.summary.artifactName g.extension = t'.summary.artifactName g.extension ↔ t.id = t'.id) ∧
      (t.id = t'.id ↔ t.module = t'.module ∧ t.name = t'.name)) ∧
    (∀ t ∈ c.reported g.marker.path,
      (∃ d ∈ c.candidates, d.symbol? c.scope = some t ∧ d.module = t.module) ∧
      t.summary.modulePath = t.module ∧
      ∀ tally a tally', emit g.extension tally t.summary = .ok (a, tally') → a.module = t.module) ∧
    (firstRepeated? [] ((c.summaries g.marker.path).map (·.artifactName g.extension)) = none ↔
      ((c.reported g.marker.path).map (·.id)).Nodup) ∧
    (¬ ((c.reported g.marker.path).map (·.id)).Nodup → ∀ marker, ∃ t ∈ c.reported g.marker.path,
      g.runMarked marker c =
        ⟨g, c, .error (.nameCollision (t.summary.artifactName g.extension))⟩) := by
  have hnames : ∀ t ∈ c.reported g.marker.path, ∀ t' ∈ c.reported g.marker.path,
      t.summary.artifactName g.extension = t'.summary.artifactName g.extension ↔ t.id = t'.id :=
    fun t h t' h' => Summary.artifactName_inj.trans (Crate.key_eq_iff hname hunits h h')
  have hsummaries := c.summaries_eq_reported g.marker.path
  have hcheck : firstRepeated? [] ((c.summaries g.marker.path).map (·.artifactName g.extension)) = none ↔
      ((c.reported g.marker.path).map (·.id)).Nodup := by
    rw [firstRepeated?_eq_none, hsummaries, List.map_map, and_iff_left (by simp)]
    unfold List.Nodup
    rw [List.pairwise_map, List.pairwise_map]
    exact List.Pairwise.iff_of_mem fun h h' => not_congr (hnames _ h _ h')
  refine ⟨hsummaries, fun t h t' h' => ⟨hnames t h t' h', Crate.id_eq_iff h h'⟩, fun t h => ?_, hcheck,
    fun hrepeated marker => ?_⟩
  · have hmodule := Crate.modulePath_of_reported hname hunits h
    refine ⟨Crate.mem_reported h, hmodule, fun tally a tally' hemit => ?_⟩
    obtain ⟨code, -, rfl, -⟩ := emit_ok hemit
    exact hmodule
  · obtain ⟨name, hfound⟩ := Option.ne_none_iff_exists'.1 (mt hcheck.1 hrepeated)
    have hmem := mem_of_firstRepeated? hfound
    rw [hsummaries, List.map_map] at hmem
    obtain ⟨t, ht, rfl⟩ := List.mem_map.1 hmem
    refine ⟨t, ht, ?_⟩
    unfold runMarked
    dsimp only
    rw [hfound]
    rfl

/-- A struct in an inline module with a raw name, and one of its name in the file of that module. -/
theorem artifacts_as_symbols_raw : ∃ c : Crate, c.Built ∧ IsIdentifier c.name ∧
    (∀ u ∈ c.units, ∀ n ∈ u.module, IsIdentifier n) ∧
    (c.reported "crate::M").map (fun t => (t.id, t.summary.modulePath, t.summary.artifactName "rs")) =
      [(⟨"demo", ["type", "fn"]⟩, ["type"], "demo.type.fn.g.rs"), (⟨"demo", ["A"]⟩, [], "demo.A.g.rs"),
        (⟨"demo", ["type", "fn"]⟩, ["type"], "demo.type.fn.g.rs")] ∧
    ∀ marker, ∃ t ∈ c.reported "crate::M",
      (⟨⟨"crate::M", [], "M"⟩, "rs", .empty, .empty⟩ : Generator).runMarked marker c =
        ⟨⟨⟨"crate::M", [], "M"⟩, "rs", .empty, .empty⟩, c,
          .error (.nameCollision (t.summary.artifactName "rs"))⟩ := by
  have hread : (((⟨"demo", []⟩ : Crate).add "lib.rs" [] ("struct M;" ++
      "mod r#type\x7buse super::M;#[M]struct r#fn\x7bpub x:u8\x7d\x7d#[M]struct A;")).bind
      (·.add "type.rs" ["type"] "use super::M;#[M]struct r#fn;")).toOption.map
      (fun c => (c.name, c.units.map (·.module), (c.reported "crate::M").map fun t =>
        (t.id, t.summary.modulePath, t.summary.artifactName "rs"))) =
      some ("demo", [[], ["type"]],
        [(⟨"demo", ["type", "fn"]⟩, ["type"], "demo.type.fn.g.rs"), (⟨"demo", ["A"]⟩, [], "demo.A.g.rs"),
          (⟨"demo", ["type", "fn"]⟩, ["type"], "demo.type.fn.g.rs")]) := by decide +kernel
  obtain ⟨c, hadd, hparts⟩ := Option.map_eq_some_iff.1 hread
  obtain ⟨hname, hparts⟩ := Prod.mk.inj hparts
  obtain ⟨hunits, hreported⟩ := Prod.mk.inj hparts
  obtain ⟨lib, hlib, htype⟩ := bind_ok (toOption_eq_some hadd)
  have hcreate : Crate.create "demo" = .ok ⟨"demo", []⟩ := rfl
  have hident : IsIdentifier c.name := hname ▸ IsIdentifier.name (.plain "demo")
  have hsegments : ∀ u ∈ c.units, ∀ n ∈ u.module, IsIdentifier n := by
    intro u hu n hn
    have hmodule := List.mem_map_of_mem (f := SourceUnit.module) hu
    rw [hunits] at hmodule
    simp only [List.mem_cons, List.not_mem_nil, or_false] at hmodule
    rcases hmodule with hmodule | hmodule
    · rw [hmodule] at hn
      cases hn
    · rw [hmodule, List.mem_singleton] at hn
      exact hn ▸ IsIdentifier.name (.plain "type")
  have hids : (c.reported "crate::M").map (·.id) =
      [⟨"demo", ["type", "fn"]⟩, ⟨"demo", ["A"]⟩, ⟨"demo", ["type", "fn"]⟩] := by
    have hfirst := congrArg (List.map Prod.fst) hreported
    rw [List.map_map] at hfirst
    exact hfirst
  have hrepeated : ¬ ((c.reported "crate::M").map (·.id)).Nodup := by
    rw [hids]
    decide
  obtain ⟨-, -, -, -, hstops⟩ :=
    artifacts_as_symbols ⟨⟨"crate::M", [], "M"⟩, "rs", .empty, .empty⟩ hident hsegments
  exact ⟨c, .add (.add (.create hcreate) hlib) htype, hident, hsegments, hreported, hstops hrepeated⟩

end Generator

end DisplayGen
