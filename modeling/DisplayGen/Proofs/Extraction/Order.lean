import DisplayGen.Proofs.Crate
import DisplayGen.Proofs.Except
import DisplayGen.Proofs.Lists
import DisplayGen.Proofs.Resolution.Alike
import DisplayGen.Proofs.Resolution.Items

/-!
# The order of units

Resolution takes the first import of a name and the first glob that provides it, so the order of the imports
of a module matters, and that of units does if several of them import into one module. If no two of them
do, it does not: all paths name the same whatever the order of the units is, and extraction gives the same
summaries (`Crate.summaries_perm`).
-/

namespace DisplayGen

open Source

/-- The module that the declaration brings something into. -/
def Declaration.importing? : Declaration → Option (List String)
  | .brought module _ => some module
  | _ => none

/-- What the declaration brings into the module. -/
def Declaration.importInto? (module : List String) : Declaration → Option Import
  | .brought m content => if m = module then some content else none
  | _ => none

/-- The modules that the unit imports something into. A declaration that brings no name into its module, like
`use a as _`, does not count. -/
def SourceUnit.importing (u : SourceUnit) : List (List String) :=
  (Crate.declarationsOfUnit u).filterMap Declaration.importing?

/-- What the unit imports into the module, in source order. -/
def SourceUnit.importsInto (u : SourceUnit) (module : List String) : List Import :=
  (Crate.declarationsOfUnit u).filterMap (Declaration.importInto? module)

theorem SourceUnit.importsInto_eq_nil {u : SourceUnit} {module : List String} (h : module ∉ u.importing) :
    u.importsInto module = [] := by
  unfold importsInto
  rw [List.filterMap_eq_nil_iff]
  intro d hd
  cases d with
  | item | struct => rfl
  | brought m content =>
    refine if_neg fun hm => h ?_
    exact List.mem_filterMap.2 ⟨.brought m content, hd, congrArg some hm⟩

namespace Crate

variable {c c' : Crate}

/-! ## Scopes of the same units -/

/-- No two units import into one module. -/
def ImportsApart (c : Crate) : Prop := c.units.Pairwise fun u v => u.importing.Disjoint v.importing

theorem importsOf_scope (c : Crate) (module : List String) :
    c.scope.importsOf module = c.units.flatMap fun u => u.importsInto module := by
  unfold Scope.importsOf scope scopeOf declarations SourceUnit.importsInto
  dsimp only
  rw [← List.filterMap_flatMap, ← List.filterMap_eq_map, ← List.filterMap_eq_filter,
    List.filterMap_filterMap, List.filterMap_filterMap]
  refine List.filterMap_congr fun d _ => ?_
  cases d with
  | item | struct => rfl
  | brought m content =>
    by_cases hm : m = module
    · simp [Declaration.importInto?, Option.guard, hm]
    · simp [Declaration.importInto?, Option.guard, hm]

theorem importsOf_perm (hunits : c'.units.Perm c.units) (hapart : c.ImportsApart) (module : List String) :
    c'.scope.importsOf module = c.scope.importsOf module := by
  rw [importsOf_scope, importsOf_scope]
  refine (flatMap_eq_of_perm hunits.symm (hapart.imp fun {u v} hdisjoint => ?_)).symm
  by_cases hmodule : module ∈ u.importing
  · exact .inr (SourceUnit.importsInto_eq_nil fun h => hdisjoint hmodule h)
  · exact .inl (SourceUnit.importsInto_eq_nil hmodule)

theorem scope_bindsAlike (hname : c'.name = c.name) (hunits : c'.units.Perm c.units)
    (hapart : c.ImportsApart) : c.scope.BindsAlike c'.scope where
  crateName := hname
  items path := by
    rw [mem_scope_items, mem_scope_items]
    simp only [hunits.mem_iff]
  importsOf := importsOf_perm hunits hapart

theorem structsAt_perm (hunits : c'.units.Perm c.units) (path : List String) :
    (c'.scope.structsAt path).Perm (c.scope.structsAt path) :=
  (((hunits.flatMap_right _).filterMap _).filter _).map _

end Crate

/-! ## Extraction -/

namespace Candidate

variable {s s' : Scope}

/-- The summary of a candidate depends on what its scope binds and on which structs stand at a path, not on
their order. -/
theorem summary?_congr (hbinds : s.BindsAlike s')
    (hstructs : ∀ path, (s'.structsAt path).Perm (s.structsAt path)) (d : Candidate) (marker : String) :
    d.summary? s' marker = d.summary? s marker := by
  have hlocal : ∀ path, s'.localSymbol path = s.localSymbol path := by
    intro path
    unfold Scope.localSymbol
    rw [hbinds.crateName]
  have hsymbol : d.symbol? s' = d.symbol? s := by
    unfold symbol?
    simp only [hlocal, (hstructs _).contains_eq]
  have hmarker : s'.structNamed? marker = s.structNamed? marker := by
    unfold Scope.structNamed?
    simp only [hlocal, hbinds.crateName, (hstructs _).isEmpty_eq]
  have hclasses : ∀ t : TypeSymbol, t.attributeClasses s' = t.attributeClasses s := by
    intro t
    unfold TypeSymbol.attributeClasses
    simp only [hbinds.resolve]
  unfold summary?
  simp only [hsymbol, hmarker, hclasses]

end Candidate

namespace Crate

variable {c c' : Crate}

/-- If no two units import into one module, their order matters neither for what paths name nor for which
summaries there are. -/
theorem summaries_perm (hname : c'.name = c.name) (hunits : c'.units.Perm c.units)
    (hapart : c.ImportsApart) :
    (∀ module path, c'.scope.resolve module path = c.scope.resolve module path) ∧
      ∀ marker, (c'.summaries marker).Perm (c.summaries marker) := by
  have hbinds := scope_bindsAlike hname hunits hapart
  refine ⟨hbinds.resolve, fun marker => ?_⟩
  have hsummary : ∀ d : Candidate, d.summary? c'.scope marker = d.summary? c.scope marker :=
    fun d => d.summary?_congr hbinds (structsAt_perm hunits) marker
  have hcandidates : c'.candidates.Perm c.candidates := hunits.flatMap_right _
  unfold summaries
  simp only [hsummary]
  exact hcandidates.filterMap _

/-- A struct marked by a name that another unit declares, with the two units in either order. -/
theorem summaries_perm_reversed : ∃ c : Crate, c.Built ∧ c.ImportsApart ∧
    c.summaries "demo::b::M" = [⟨"demo::a", "P", ["x"]⟩] ∧
    (∀ module path,
      (⟨c.name, c.units.reverse⟩ : Crate).scope.resolve module path = c.scope.resolve module path) ∧
    ∀ marker, ((⟨c.name, c.units.reverse⟩ : Crate).summaries marker).Perm (c.summaries marker) := by
  have hread : (((⟨"demo", []⟩ : Crate).add "a.rs" ["a"] "use super::b::*;#[M]struct P{pub x:u8}").bind
      (·.add "b.rs" ["b"] "use std::fmt;pub struct M;")).toOption.map
      (fun c => (c.units.map SourceUnit.importing, c.summaries "demo::b::M")) =
      some ([[["a"]], [["b"]]], [⟨"demo::a", "P", ["x"]⟩]) := by decide +kernel
  obtain ⟨c, hadd, hc⟩ := Option.map_eq_some_iff.1 hread
  obtain ⟨himporting, hsummaries⟩ := Prod.mk.inj hc
  obtain ⟨b, hb, hbc⟩ := bind_ok (toOption_eq_some hadd)
  have hcreate : create "demo" = .ok ⟨"demo", []⟩ := rfl
  have hbuilt : c.Built := .add (.add (.create hcreate) hb) hbc
  have hapart : c.ImportsApart := by
    have hpairwise : (c.units.map SourceUnit.importing).Pairwise List.Disjoint := by
      rw [himporting]
      simp
    exact List.pairwise_map.1 hpairwise
  have hunits : (⟨c.name, c.units.reverse⟩ : Crate).units.Perm c.units := c.units.reverse_perm
  exact ⟨c, hbuilt, hapart, hsummaries, summaries_perm rfl hunits hapart⟩

end Crate

end DisplayGen
