import DisplayGen.Extraction
import DisplayGen.Proofs.Crate
import Mathlib.Data.List.Basic

/-!
# Declared structs

Two traversals go over a crate: one collects candidates, wherever they stand, and the other what
modules declare. `Tree.structsIn` gives the structs that stand at the level of a module, and is what
the two have in common.

* `structs_declarations`: the structs that an item declares are these.
* `filter_candidates`: the candidates that are in no block are those of these that carry an
  attribute.
-/

namespace DisplayGen

open Source

/-- A struct at the level of a module, with the module in which it is written. -/
structure DeclaredStruct where
  module : List String
  head : StructHead
  deriving DecidableEq, Repr, Inhabited

namespace Source.Tree

mutual

/-- The structs that an item of a module declares, in source order: its own, or those of an inline
module. Blocks are not entered. -/
def structsIn (module : List String) : Tree → List DeclaredStruct
  | .node (.struct head) _ => [⟨module, head⟩]
  | .node (.module i true) [_, _, _, .node _ items] => structsInAll (module ++ [i.name]) items
  | _ => []

/-- The structs that the items of a module declare. -/
def structsInAll (module : List String) : List Tree → List DeclaredStruct
  | [] => []
  | t :: ts => structsIn module t ++ structsInAll module ts

end

end Source.Tree

/-- The structs that a source unit declares. -/
def SourceUnit.structs (u : SourceUnit) : List DeclaredStruct :=
  Source.Tree.structsInAll u.module u.file.items

/-- The structs that the modules of a crate declare, in the order of its units. -/
def Crate.structs (c : Crate) : List DeclaredStruct := c.units.flatMap SourceUnit.structs

namespace DeclaredStruct

/-- The path of the struct in its crate. -/
def path (d : DeclaredStruct) : List String := d.module ++ [d.head.name.name]

/-- The struct as a candidate of a unit. -/
def candidate (unit : String) (d : DeclaredStruct) : Candidate := ⟨unit, d.module, d.head, false⟩

/-- The struct carries an attribute. -/
def isTarget (d : DeclaredStruct) : Bool := !d.head.attributes.isEmpty

end DeclaredStruct

/-- The struct that is declared, with its path. -/
def Declaration.struct? : Declaration → Option (List String × StructHead)
  | .struct path head => some (path, head)
  | _ => none

namespace Source.Tree

variable {t : Tree} {ts : List Tree} {unit : String} {module : List String} {inBlock : Bool}

theorem structsInAll_eq : structsInAll module ts = ts.flatMap (structsIn module) := by
  induction ts with
  | nil => rfl
  | cons t ts ih => rw [structsInAll, ih, List.flatMap_cons]

theorem declarationsOfAll_eq : declarationsOfAll module ts = ts.flatMap (declarations module) := by
  induction ts with
  | nil => rfl
  | cons t ts ih => rw [declarationsOfAll, ih, List.flatMap_cons]

theorem candidatesOfAll_eq :
    candidatesOfAll unit module inBlock ts = ts.flatMap (candidates unit module inBlock) := by
  induction ts with
  | nil => rfl
  | cons t ts ih => rw [candidatesOfAll, ih, List.flatMap_cons]

/-! ## Blocks -/

mutual

theorem candidates_inBlock (t : Tree) (module : List String) :
    ∀ c ∈ candidates unit module true t, c.inBlock = true := by
  unfold candidates
  split
  · simp
  · rename_i head children
    intro c hc
    obtain hc | hc := List.mem_append.1 hc
    · split at hc
      · cases hc
      · rw [List.mem_singleton.1 hc]
    · exact candidatesOfAll_inBlock children module c hc
  · rename_i i inline children
    split
    · exact candidatesOfAll_inBlock children _
    · simp
  · exact candidatesOfAll_inBlock _ module
  · exact candidatesOfAll_inBlock _ module

theorem candidatesOfAll_inBlock (ts : List Tree) (module : List String) :
    ∀ c ∈ candidatesOfAll unit module true ts, c.inBlock = true := by
  unfold candidatesOfAll
  split
  · simp
  · exact List.forall_mem_append.2 ⟨candidates_inBlock _ module, candidatesOfAll_inBlock _ module⟩

end

mutual

/-- What an inert tree declares stands in its blocks. -/
theorem Inert.candidates_inBlock (t : Tree) (h : t.Inert) :
    ∀ c ∈ candidates unit module inBlock t, c.inBlock = true := by
  unfold candidates
  split
  · simp
  · cases h
  · cases h
  · exact candidatesOfAll_inBlock _ module
  · rename_i hstruct hmodule hblock
    rw [Inert] at h
    · exact AllInert.candidatesOfAll_inBlock _ h
    all_goals assumption

theorem AllInert.candidatesOfAll_inBlock (ts : List Tree) (h : AllInert ts) :
    ∀ c ∈ candidatesOfAll unit module inBlock ts, c.inBlock = true := by
  unfold candidatesOfAll
  split
  · simp
  · exact List.forall_mem_append.2
      ⟨Inert.candidates_inBlock _ h.1, AllInert.candidatesOfAll_inBlock _ h.2⟩

end

/-! ## Inert trees declare no struct -/

theorem Inert.structsIn (h : t.Inert) : t.structsIn module = [] := by
  unfold Tree.structsIn
  split
  · cases h
  · cases h
  · rfl

theorem Inert.struct?_declarations (h : t.Inert) :
    (t.declarations module).filterMap Declaration.struct? = [] := by
  unfold declarations
  split
  · cases h
  · rfl
  · rfl
  · cases h
  · simp [Declaration.struct?]
  · rfl

/-! ## Items -/

theorem structs_declarations (h : t.IsItem) :
    (t.declarations module).filterMap Declaration.struct? =
      (t.structsIn module).map fun d => (d.path, d.head) := by
  induction h generalizing module with
  | struct outer parts => rfl
  | @inlineModule i attributes visibility unsafety items ha hv hu content ih =>
    have hitems : (items.flatMap (declarations (module ++ [i.name]))).filterMap Declaration.struct? =
        (items.flatMap (Tree.structsIn (module ++ [i.name]))).map fun d => (d.path, d.head) := by
      rw [List.filterMap_flatMap, List.map_flatMap]
      exact List.flatMap_congr fun t ht => ih t ht
    rw [← declarationsOfAll_eq, ← structsInAll_eq] at hitems
    exact hitems
  | outlineModule => rfl
  | inert h => rw [h.struct?_declarations, h.structsIn, List.map_nil]

theorem Inert.filter_candidates (h : t.Inert) :
    (t.candidates unit module inBlock).filter (fun c => !c.inBlock) = [] := by
  rw [List.filter_eq_nil_iff]
  intro c hc
  simp [Inert.candidates_inBlock t h c hc]

theorem filter_candidatesOfAll_inert (h : ∀ t ∈ ts, t.Inert) :
    (candidatesOfAll unit module inBlock ts).filter (fun c => !c.inBlock) = [] := by
  rw [candidatesOfAll_eq, List.filter_flatMap, List.flatMap_eq_nil_iff]
  exact fun t ht => (h t ht).filter_candidates

theorem filter_candidates (h : t.IsItem) :
    (t.candidates unit module false).filter (fun c => !c.inBlock) =
      ((t.structsIn module).filter DeclaredStruct.isTarget).map (DeclaredStruct.candidate unit) := by
  induction h generalizing module with
  | @struct head children outer parts =>
    unfold candidates
    rw [List.filter_append, filter_candidatesOfAll_inert parts, List.append_nil]
    by_cases hnone : head.attributes = []
    · simp [Tree.structsIn, DeclaredStruct.isTarget, hnone]
    · have htarget : DeclaredStruct.isTarget ⟨module, head⟩ = true := by
        simpa [DeclaredStruct.isTarget] using hnone
      rw [Tree.structsIn, List.filter_cons_of_pos htarget]
      simp [DeclaredStruct.candidate, hnone]
  | @inlineModule i attributes visibility unsafety items ha hv hu content ih =>
    have hparts : ∀ t ∈ [attributes, visibility, unsafety], t.Inert := by simp [ha, hv, hu]
    have hitems : (candidatesOfAll unit (module ++ [i.name]) false items).filter
        (fun c => !c.inBlock) = ((structsInAll (module ++ [i.name]) items).filter
          DeclaredStruct.isTarget).map (DeclaredStruct.candidate unit) := by
      rw [candidatesOfAll_eq, structsInAll_eq, List.filter_flatMap, List.filter_flatMap,
        List.map_flatMap]
      exact List.flatMap_congr fun t ht => ih t ht
    have hsplit : candidates unit module false
        (.node (.module i true) [attributes, visibility, unsafety, .list items]) =
        candidatesOfAll unit (module ++ [i.name]) false [attributes, visibility, unsafety] ++
          candidatesOfAll unit (module ++ [i.name]) false items := by
      simp [candidates, candidatesOfAll]
    rw [hsplit, List.filter_append, filter_candidatesOfAll_inert hparts, List.nil_append]
    exact hitems
  | outlineModule => rfl
  | inert h => rw [h.structsIn, h.filter_candidates, List.filter_nil, List.map_nil]

theorem outer_of_mem_structsIn (h : t.IsItem) {d : DeclaredStruct} (hd : d ∈ t.structsIn module) :
    ∀ a ∈ d.head.attributes, a.inner = false := by
  induction h generalizing module with
  | struct outer parts =>
    cases List.mem_singleton.1 hd
    exact outer
  | @inlineModule i attributes visibility unsafety items ha hv hu content ih =>
    have hmem : d ∈ structsInAll (module ++ [i.name]) items := hd
    rw [structsInAll_eq] at hmem
    obtain ⟨t, ht, hd⟩ := List.mem_flatMap.1 hmem
    exact ih t ht hd
  | outlineModule => cases hd
  | inert h =>
    rw [h.structsIn] at hd
    cases hd

end Source.Tree

/-! ## Units and crates -/

open Source.Tree

theorem SourceUnit.filter_candidates {u : SourceUnit} (h : u.file.Shaped) :
    u.candidates.filter (fun c => !c.inBlock) =
      (u.structs.filter DeclaredStruct.isTarget).map (DeclaredStruct.candidate u.name) := by
  unfold SourceUnit.candidates SourceUnit.structs
  rw [candidatesOfAll_eq, List.flatMap_append, List.filter_append, ← candidatesOfAll_eq,
    filter_candidatesOfAll_inert h.attributes, List.nil_append, structsInAll_eq,
    List.filter_flatMap, List.filter_flatMap, List.map_flatMap]
  exact List.flatMap_congr fun t ht => Source.Tree.filter_candidates (h.items t ht)

theorem SourceUnit.struct?_declarations {u : SourceUnit} (h : u.file.Shaped) :
    (Crate.declarationsOfUnit u).filterMap Declaration.struct? =
      u.structs.map fun d => (d.path, d.head) := by
  unfold Crate.declarationsOfUnit SourceUnit.structs
  rw [List.filterMap_append, declarationsOfAll_eq, structsInAll_eq, List.filterMap_flatMap,
    List.map_flatMap]
  have hmodules : ((List.range u.module.length).map fun n =>
      Declaration.item (u.module.take (n + 1))).filterMap Declaration.struct? = [] := by
    simp [Declaration.struct?]
  rw [hmodules, List.nil_append]
  exact List.flatMap_congr fun t ht => structs_declarations (h.items t ht)

namespace Crate.Built

variable {c : Crate}

/-- The structs of a crate's scope are the declared ones. -/
theorem scope_structs (h : c.Built) : c.scope.structs = c.structs.map fun d => (d.path, d.head) := by
  have hstructs : c.scope.structs = c.declarations.filterMap Declaration.struct? := by
    unfold Crate.scope Crate.scopeOf
    dsimp only
    congr 1
  rw [hstructs]
  unfold Crate.declarations Crate.structs
  rw [List.filterMap_flatMap, List.map_flatMap]
  exact List.flatMap_congr fun u hu => SourceUnit.struct?_declarations (h.units_shaped u hu)

theorem structsAt (h : c.Built) (path : List String) :
    c.scope.structsAt path = (c.structs.filter fun d => d.path = path).map (·.head) := by
  unfold Scope.structsAt
  rw [h.scope_structs, List.filter_map, List.map_map]
  rfl

theorem outer_attributes (h : c.Built) {d : DeclaredStruct} (hd : d ∈ c.structs) :
    ∀ a ∈ d.head.attributes, a.inner = false := by
  obtain ⟨u, hu, hd⟩ := List.mem_flatMap.1 hd
  unfold SourceUnit.structs at hd
  rw [structsInAll_eq] at hd
  obtain ⟨t, ht, hd⟩ := List.mem_flatMap.1 hd
  exact outer_of_mem_structsIn ((h.units_shaped u hu).items t ht) hd

end Crate.Built

end DisplayGen
