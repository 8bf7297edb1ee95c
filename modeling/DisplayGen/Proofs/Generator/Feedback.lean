import DisplayGen.Proofs.Emission.Reread
import DisplayGen.Proofs.Extraction.Origin
import DisplayGen.Proofs.Generator.History
import DisplayGen.Proofs.Resolution.Alike
import DisplayGen.Proofs.Resolution.Items

/-!
# What is generated is not extracted

A run adds what it has generated to the crate, where it is declared and resolved like hand-written code. It
declares nothing new, though: generated code holds implementations only, and it stands in the module of a
struct that the crate declares, which can be named before it is added.

* `Crate.summaries_eq_of_repeats`: units that declare only what can be named already leave extraction as it
  is.
* `Generator.summaries_run`: after a run the crate has the summaries that the run has found.
-/

namespace DisplayGen

open Source

/-! ## Units that declare nothing new -/

/-- The unit declares only what can be named in the crate without it, and neither structs nor imports. -/
def Crate.Repeats (c : Crate) (u : SourceUnit) : Prop :=
  ∀ d ∈ declarationsOfUnit u, ∃ path ∈ c.scope.items, d = .item path

namespace Crate

variable {c c' : Crate} {us : List SourceUnit}

theorem Repeats.structs {u : SourceUnit} (h : c.Repeats u) (hshaped : u.file.Shaped) : u.structs = [] := by
  have hnone : (declarationsOfUnit u).filterMap Declaration.struct? = [] := by
    rw [List.filterMap_eq_nil_iff]
    intro d hd
    obtain ⟨path, -, rfl⟩ := h d hd
    rfl
  rw [SourceUnit.struct?_declarations hshaped] at hnone
  exact List.map_eq_nil_iff.1 hnone

theorem scope_alike (hname : c'.name = c.name) (hunits : c'.units = c.units ++ us)
    (h : ∀ u ∈ us, c.Repeats u) : c.scope.Alike c'.scope := by
  have hnew : ∀ d ∈ us.flatMap declarationsOfUnit, ∃ path ∈ c.scope.items, d = .item path := by
    intro d hd
    obtain ⟨u, hu, hd⟩ := List.mem_flatMap.1 hd
    exact h u hu d hd
  have hdeclarations : c'.declarations = c.declarations ++ us.flatMap declarationsOfUnit := by
    rw [declarations, hunits, List.flatMap_append]
    rfl
  have hkept : ∀ {α : Type} (f : Declaration → Option α), (∀ path, f (.item path) = none) →
      c'.declarations.filterMap f = c.declarations.filterMap f := by
    intro α f hf
    rw [hdeclarations, List.filterMap_append, List.append_right_eq_self, List.filterMap_eq_nil_iff]
    intro d hd
    obtain ⟨path, -, rfl⟩ := hnew d hd
    exact hf path
  refine ⟨hname, fun path => ?_, ?_, ?_⟩
  · unfold scope scopeOf at hnew ⊢
    dsimp only
    rw [hdeclarations, List.filterMap_append, List.mem_append]
    refine or_iff_left_of_imp fun hpath => ?_
    obtain ⟨d, hd, heq⟩ := List.mem_filterMap.1 hpath
    obtain ⟨path', hpath', rfl⟩ := hnew d hd
    cases heq
    exact hpath'
  · exact hkept _ fun _ => rfl
  · exact hkept _ fun _ => rfl

/-- Units that declare only what can be named already leave extraction as it is. -/
theorem summaries_eq_of_repeats (hc : c.Built) (hc' : c'.Built) (hname : c'.name = c.name)
    (hunits : c'.units = c.units ++ us) (h : ∀ u ∈ us, c.Repeats u) (marker : String) :
    c'.summaries marker = c.summaries marker := by
  have halike := scope_alike hname hunits h
  have hnone : us.flatMap SourceUnit.structs = [] := by
    rw [List.flatMap_eq_nil_iff]
    intro u hu
    exact (h u hu).structs (hc'.units_shaped u (by rw [hunits]; exact List.mem_append_right _ hu))
  have hstructs : c'.structs = c.structs := by
    rw [Crate.structs, hunits, List.flatMap_append, hnone, List.append_nil]
    rfl
  have hmarker : c'.markerSymbol? marker = c.markerSymbol? marker := by
    unfold markerSymbol?
    rw [hstructs, hname]
  have hmarked : ∀ (d : DeclaredStruct) m, d.isMarked c'.scope m = d.isMarked c.scope m := by
    intro d m
    unfold DeclaredStruct.isMarked
    simp only [halike.resolve]
  rw [summaries_eq_filterMap hc', summaries_eq_filterMap hc, ← markedSummaries_eq_filterMap,
    ← markedSummaries_eq_filterMap]
  unfold markedSummaries
  rw [hmarker, hstructs, hname]
  simp only [hmarked]

end Crate

/-! ## Artifacts among the sources -/

/-- The unit declares nothing but its module and those around it. -/
def SourceUnit.IsBare (u : SourceUnit) : Prop :=
  ∀ d ∈ Crate.declarationsOfUnit u, ∃ n < u.module.length, d = .item (u.module.take (n + 1))

namespace Generator

variable {c c' marked : Crate} {extension : String}

theorem addArtifact_isBare {x : Generated} (hx : x.Rendered extension)
    (h : c.addArtifact x.artifact = .ok c') : ∃ u : SourceUnit,
      c' = { c with units := c.units ++ [u] } ∧ u.module = x.summary.modulePath ∧ u.IsBare := by
  obtain ⟨count, code, hcode, hartifact⟩ := hx
  have htext : x.artifact.text = artifactText count code := by rw [hartifact]
  have hrendered := Crate.addArtifact_rendered count code (Crate.add_ok h).1 htext
    (DisplayCode.ofSummary_ok hcode).2.1
  rw [h] at hrendered
  refine ⟨_, Except.ok.inj hrendered, by rw [hartifact], fun d hd => ?_⟩
  rcases List.mem_append.1 hd with hd | hd
  · obtain ⟨n, hn, rfl⟩ := List.mem_map.1 hd
    exact ⟨n, List.mem_range.1 hn, rfl⟩
  · -- an implementation declares nothing
    cases hd

/-- Renderings are added as units that declare nothing but their modules. -/
theorem addAll_isBare {xs : List Generated} (hc : c.Built) (h : ∀ x ∈ xs, x.Rendered extension)
    (hadd : addAll c (xs.map (·.artifact)) = (c', none)) : c'.Built ∧ c'.name = c.name ∧
      ∃ us, c'.units = c.units ++ us ∧
        ∀ u ∈ us, u.IsBare ∧ ∃ x ∈ xs, u.module = x.summary.modulePath := by
  induction xs generalizing c with
  | nil =>
    cases hadd
    exact ⟨hc, rfl, [], (List.append_nil _).symm, List.forall_mem_nil _⟩
  | cons x xs ih =>
    rw [List.map_cons] at hadd
    unfold addAll at hadd
    cases hx : c.addArtifact x.artifact with
    | error e =>
      rw [hx] at hadd
      cases hadd
    | ok c₁ =>
      rw [hx] at hadd
      obtain ⟨hx', hxs⟩ := List.forall_mem_cons.1 h
      obtain ⟨hbuilt, hname, us, hunits, hus⟩ := ih (hc.addArtifact hx) hxs hadd
      obtain ⟨u, rfl, hmodule, hbare⟩ := addArtifact_isBare hx' hx
      refine ⟨hbuilt, hname, u :: us, ?_, List.forall_mem_cons.2 ⟨?_, fun v hv => ?_⟩⟩
      · rw [hunits, List.append_assoc]
        rfl
      · exact ⟨hbare, x, List.mem_cons_self, hmodule⟩
      · obtain ⟨hbare, y, hy, hmodule⟩ := hus v hv
        exact ⟨hbare, y, List.mem_cons_of_mem x hy, hmodule⟩

/-- The modules of a crate with a marker's definition are cut back out of namespaces, if there are no colons
in the names that the crate was given. -/
theorem modulePath_of_mem {path : String} {m : Marker} {i : Ident} (hparse : Marker.parse path = .ok m)
    (hname : ':' ∉ c.name.toList) (hunits : ∀ u ∈ c.units, ∀ n ∈ u.module, ':' ∉ n.toList)
    {d : DeclaredStruct} (hd : d ∈ (m.definedIn i c).structs) :
    (d.summary c.name).modulePath = d.module := by
  have hident : ∀ i : Ident, Text.Segment i.name.toList :=
    fun i => Text.segment_of_not_mem (Text.not_mem_of_isWord i.isWord_name)
  have hmodule : ∀ n ∈ d.module, Text.Segment n.toList := by
    rw [Crate.structs_definedIn] at hd
    rcases List.mem_append.1 hd with hd | hd
    · exact Crate.module_structs hident
        (fun u hu n hn => Text.segment_of_not_mem (hunits u hu n hn)) d hd
    · -- pieces of the marker's path, before the last one
      rw [List.mem_singleton.1 hd]
      have hpieces := Text.segment_of_splitPath
        (show _ = ("crate" :: m.module) ++ [m.name] from (Marker.parse_ok hparse).2.1)
      exact fun n hn => hpieces n (List.mem_cons_of_mem _ hn)
  have hsegments : ∀ n ∈ c.name :: d.module, Text.Segment n.toList :=
    List.forall_mem_cons.2 ⟨Text.segment_of_not_mem hname, hmodule⟩
  have hcut := Text.splitPath_joinPath (List.cons_ne_nil c.name d.module) hsegments
  unfold Summary.modulePath DeclaredStruct.summary
  dsimp only
  rw [hcut]
  rfl

/-- After any history of runs, a run that gives a result leaves a crate with the summaries that it has found,
although what it has generated for them is among the sources. -/
theorem summaries_run {path extension : String} {g₀ g : Generator} {last : List Generated} {r : Run}
    (hnew : create path extension = .ok g₀) (hreach : Reaches g₀ g last) (hc : c.Built)
    (hname : ':' ∉ c.name.toList) (hunits : ∀ u ∈ c.units, ∀ n ∈ u.module, ':' ∉ n.toList)
    (hr : (g.run c).result = .ok r) : (g.run c).crate.summaries path = r.summaries := by
  obtain ⟨hparse, -⟩ := create_ok hnew
  rw [← hreach.marker] at hparse
  have hpath := Marker.parse_path hparse
  obtain ⟨marked, p, hsteps⟩ := run_ok hr
  obtain ⟨hsummaries, hadvances⟩ := hsteps.advances
  rw [hpath] at hsummaries
  have hrendered : ∀ x ∈ r.generated, x.Rendered g.extension := fun x hx =>
    (hreach.consistent (consistent_create hnew)).rendered_of_makes (hadvances.makes x hx)
  obtain ⟨i, hi⟩ := (Marker.definition_ok_iff hparse).1 ⟨r.marker, hsteps.definition⟩
  have hlast : g.marker.name ∈ g.marker.module ++ [g.marker.name] :=
    List.mem_append_right _ (List.mem_singleton_self _)
  have hmarked := Marker.addArtifact_definition hi (Marker.isName_of_parse hparse hlast hi).2
    hsteps.definition hsteps.free
  rw [hsteps.addMarker] at hmarked
  have hbuilt : marked.Built := hc.addArtifact hsteps.addMarker
  have hadded := hsteps.added
  rw [← hsteps.generated] at hadded
  obtain ⟨hbuilt', hname', us, hunits', hus⟩ := addAll_isBare hbuilt hrendered hadded
  have hrepeats : ∀ u ∈ us, marked.Repeats u := by
    intro u hu e he
    obtain ⟨hbare, x, hx, hmodule⟩ := hus u hu
    obtain ⟨n, hn, rfl⟩ := hbare e he
    have hs : x.summary ∈ marked.summaries path := by
      rw [← hsummaries]
      exact List.mem_map_of_mem hx
    obtain ⟨-, -, d, hd, -, hsummary⟩ := Crate.mem_summaries hbuilt hs
    have hmarker : marked = g.marker.definedIn i c := Except.ok.inj hmarked
    rw [hmarker] at hd hsummary ⊢
    rw [← hsummary] at hmodule
    rw [hmodule.trans (modulePath_of_mem hparse hname hunits hd)] at hn ⊢
    exact ⟨_, Crate.isModule_of_structs hd n hn, rfl⟩
  rw [Crate.summaries_eq_of_repeats hbuilt hbuilt' hname' hunits' hrepeats, hsummaries]

/-- The first run over a crate with one marked struct in an inline module. -/
theorem summaries_run_first : ∃ (g : Generator) (c : Crate) (r : Run),
    (g.run c).result = .ok r ∧ r.summaries = [⟨"demo::m", "P", ["x"]⟩] ∧
      (g.run c).crate.summaries "crate::M" = [⟨"demo::m", "P", ["x"]⟩] := by
  have hforetold : ((⟨"demo", []⟩ : Crate).add "lib.rs" []
      "mod m{#[super::M]pub struct P{pub x:u8}}").toOption.bind (fun c =>
        ((⟨⟨"crate::M", [], "M"⟩, "rs", .empty, .empty⟩ : Generator).foretell? (.plain "M") c).map
          fun o => o.2.summaries) = some [⟨"demo::m", "P", ["x"]⟩] := by decide +kernel
  obtain ⟨c, hadd, h⟩ := Option.bind_eq_some_iff.1 hforetold
  obtain ⟨⟨g, r⟩, hrun, hsummaries⟩ := Option.map_eq_some_iff.1 h
  obtain ⟨hr, -⟩ := run_of_foretell? (fun _ => (consistent_create create_root).rendered_of_makes) rfl rfl hrun
  have hcreate : Crate.create "demo" = .ok ⟨"demo", []⟩ := rfl
  have hadd := toOption_eq_some hadd
  obtain ⟨-, file, -, hc⟩ := Crate.add_ok hadd
  have hname : c.name = "demo" := by rw [hc]
  have hunits : ∀ u ∈ c.units, ∀ n ∈ u.module, ':' ∉ n.toList := by
    rw [hc]
    exact List.forall_mem_singleton.2 (List.forall_mem_nil _)
  refine ⟨_, c, r, hr, hsummaries, ?_⟩
  rw [← hsummaries]
  exact summaries_run create_root .start (.add (.create hcreate) hadd) (by rw [hname]; decide) hunits hr

end Generator

end DisplayGen
