import DisplayGen.Candidate
import DisplayGen.Proofs.Crate
import DisplayGen.Proofs.Except
import DisplayGen.Proofs.Source.Places

/-!
# Candidates at any depth

The traversal that collects candidates carries the module and whether it is in a block. What it has when it
comes to a struct can be read off the nodes that enclose the struct (`Tree.candidates_eq`). It does not enter
a module that has its content in a file of its own, so it misses what stands in an attribute of one.

* `Crate.Place`: a struct of a crate, however deep it stands.
* `Crate.Built.candidates_places`: the candidates of a crate are the structs that carry an attribute, each
  once and in source order, but for those in attributes of such modules.
-/

namespace DisplayGen

open Source

namespace Source

/-- The name that the node adds to the module of what stands in it. -/
def Label.inlineName? : Label → Option String
  | .module i true => some i.name
  | _ => none

/-- The node is a block. -/
def Label.isBlock : Label → Bool
  | .block => true
  | _ => false

/-- The node is a module that has its content in a file of its own. -/
def Label.isOutline : Label → Bool
  | .module _ false => true
  | _ => false

theorem Label.isOutline_iff {label : Label} : label.isOutline = true ↔ ∃ i, label = .module i false := by
  unfold isOutline
  split
  · simp
  · rename_i h
    simpa using h

namespace StructPlace

variable {p : StructPlace} {label : Label} {n : Nat} {unit : String} {module : List String} {inBlock : Bool}

/-- The traversal comes to the struct, and the struct carries an attribute. -/
def isCollected (p : StructPlace) : Bool := !p.above.any Label.isOutline && !p.head.attributes.isEmpty

/-- The struct as a candidate, if the tree stands in the module, perhaps in a block. -/
def candidate (unit : String) (module : List String) (inBlock : Bool) (p : StructPlace) : Candidate where
  unit
  module := module ++ p.above.filterMap Label.inlineName?
  head := p.head
  inBlock := inBlock || p.above.any Label.isBlock

theorem isCollected_within (h : label.isOutline = false) : (p.within label n).isCollected = p.isCollected := by
  simp [isCollected, within, h]

theorem candidate_within : (p.within label n).candidate unit module inBlock =
    p.candidate unit (module ++ label.inlineName?.toList) (inBlock || label.isBlock) := by
  unfold candidate within
  dsimp only
  rw [List.any_cons, Bool.or_assoc, List.append_assoc]
  congr 2
  cases h : label.inlineName? with
  | none => rw [List.filterMap_cons_none h, Option.toList_none, List.nil_append]
  | some name => rw [List.filterMap_cons_some h, Option.toList_some, List.singleton_append]

end StructPlace

namespace Tree

open StructPlace

variable {label : Label} {unit : String}

/-- The candidates of a node: itself, and those of its children, in the module that it makes. -/
theorem candidates_node (h : label.isOutline = false) (module : List String) (inBlock : Bool)
    (children : List Tree) : candidates unit module inBlock (.node label children) =
      ((ownPlace label).filter isCollected).map (candidate unit module inBlock) ++
        candidatesOfAll unit (module ++ label.inlineName?.toList) (inBlock || label.isBlock) children := by
  cases label with
  | struct head =>
    rw [candidates]
    by_cases hnone : head.attributes = []
    · simp [ownPlace, isCollected, hnone, Label.inlineName?, Label.isBlock]
    · simp [ownPlace, isCollected, hnone, candidate, Label.inlineName?, Label.isBlock]
  | module i inline =>
    cases inline with
    | true => simp [candidates, ownPlace, Label.inlineName?, Label.isBlock]
    | false => cases h
  | _ => simp [candidates, ownPlace, Label.inlineName?, Label.isBlock]

/-- The traversal does not enter a module that has its content in a file of its own. -/
theorem filter_structPlacesFrom (h : label.isOutline = true) (n : Nat) (ts : List Tree) :
    (structPlacesFrom label n ts).filter isCollected = [] := by
  rw [List.filter_eq_nil_iff]
  intro p hp
  obtain ⟨i, child, q, -, -, rfl⟩ := (mem_structPlacesFrom label n ts p).1 hp
  simp [isCollected, StructPlace.within, h]

mutual

theorem candidates_eq (t : Tree) (module : List String) (inBlock : Bool) :
    candidates unit module inBlock t =
      ((structPlaces t).filter isCollected).map (candidate unit module inBlock) := by
  match t with
  | .leaf _ => rfl
  | .node label children =>
    rw [structPlaces, List.filter_append, List.map_append]
    cases h : label.isOutline with
    | false => rw [candidates_node h, candidatesOfAll_eq_places h 0 children]
    | true =>
      obtain ⟨i, rfl⟩ := Label.isOutline_iff.1 h
      rw [filter_structPlacesFrom h]
      rfl

theorem candidatesOfAll_eq_places {label : Label} (h : label.isOutline = false) (n : Nat) (ts : List Tree)
    (module : List String) (inBlock : Bool) :
    candidatesOfAll unit (module ++ label.inlineName?.toList) (inBlock || label.isBlock) ts =
      ((structPlacesFrom label n ts).filter isCollected).map (candidate unit module inBlock) := by
  match ts with
  | [] => rfl
  | t :: ts =>
    rw [candidatesOfAll, structPlacesFrom, List.filter_append, List.map_append, List.filter_map,
      List.map_map, candidates_eq t, candidatesOfAll_eq_places h (n + 1) ts]
    have hfilter : isCollected ∘ StructPlace.within label n = isCollected :=
      funext fun p => isCollected_within h
    have hmap : candidate unit module inBlock ∘ StructPlace.within label n =
        candidate unit (module ++ label.inlineName?.toList) (inBlock || label.isBlock) :=
      funext fun p => candidate_within
    rw [hfilter, hmap]

end

end Tree

end Source

/-! ## Units and crates -/

/-- The tree of a unit, of which the attributes and items of its file are the children. -/
def SourceUnit.tree (u : SourceUnit) : Tree := .list (u.file.attributes ++ u.file.items)

theorem SourceUnit.candidates_eq (u : SourceUnit) :
    u.candidates =
      (u.tree.structPlaces.filter StructPlace.isCollected).map
        (StructPlace.candidate u.name u.module false) := by
  rw [← Source.Tree.candidates_eq]
  rfl

theorem SourceUnit.regular_tree {u : SourceUnit} (h : u.file.Regular) : u.tree.Regular :=
  Source.Tree.regular_node.2 ⟨trivial, h⟩

namespace Crate

/-- Where a struct stands in a crate: its unit, with the index of it, and its place in the unit's tree. -/
structure Place where
  index : Nat
  unit : SourceUnit
  place : StructPlace

namespace Place

/-- There is a struct at the place. -/
def IsIn (s : Place) (c : Crate) : Prop :=
  c.units[s.index]? = some s.unit ∧ s.unit.tree.HasStruct s.place

/-- The one place comes before the other in the sources of the crate. -/
def Before (s t : Place) : Prop := s.index :: s.place.position < t.index :: t.place.position

/-- The struct as a candidate: its unit, its module, which is that of the unit and the inline modules around
it, its head, and whether a block is around it. -/
def candidate (s : Place) : Candidate where
  unit := s.unit.name
  module := s.unit.module ++ s.place.above.filterMap Label.inlineName?
  head := s.place.head
  inBlock := s.place.above.any Label.isBlock

end Place

/-- The structs of units, of which the first has the given index. -/
def placesFrom (n : Nat) : List SourceUnit → List Place
  | [] => []
  | u :: us => u.tree.structPlaces.map (fun p => ⟨n, u, p⟩) ++ placesFrom (n + 1) us

variable {c : Crate} {us : List SourceUnit} {n : Nat}

theorem mem_placesFrom {s : Place} : s ∈ placesFrom n us ↔
    ∃ i, us[i]? = some s.unit ∧ s.index = n + i ∧ s.unit.tree.HasStruct s.place := by
  induction us generalizing n with
  | nil => simp [placesFrom]
  | cons u us ih =>
    rw [placesFrom, List.mem_append, List.mem_map, ih]
    constructor
    · rintro (⟨p, hp, rfl⟩ | ⟨i, hunit, hindex, hplace⟩)
      · exact ⟨0, rfl, rfl, (Source.Tree.mem_structPlaces _ p).1 hp⟩
      · exact ⟨i + 1, hunit, by omega, hplace⟩
    · rintro ⟨i, hunit, hindex, hplace⟩
      obtain ⟨index, unit, p⟩ := s
      dsimp only at hunit hindex hplace
      subst hindex
      cases i with
      | zero =>
        cases hunit
        exact .inl ⟨p, (Source.Tree.mem_structPlaces _ p).2 hplace, rfl⟩
      | succ i => exact .inr ⟨i, hunit, (Nat.succ_add_eq_add_succ n i).symm, hplace⟩

theorem pairwise_placesFrom : (placesFrom n us).Pairwise Place.Before := by
  induction us generalizing n with
  | nil => exact .nil
  | cons u us ih =>
    rw [placesFrom, List.pairwise_append, List.pairwise_map]
    refine ⟨(Source.Tree.pairwise_structPlaces u.tree).imp fun {p q} h =>
      List.cons_lt_cons_iff.2 (.inr ⟨rfl, h⟩), ih, ?_⟩
    intro s hs t ht
    obtain ⟨p, -, rfl⟩ := List.mem_map.1 hs
    obtain ⟨i, -, hindex, -⟩ := mem_placesFrom.1 ht
    exact List.cons_lt_cons_iff.2 (.inl (by dsimp only; omega))

theorem candidates_placesFrom : us.flatMap SourceUnit.candidates =
    ((placesFrom n us).filter fun s => s.place.isCollected).map Place.candidate := by
  induction us generalizing n with
  | nil => rfl
  | cons u us ih =>
    rw [List.flatMap_cons, placesFrom, List.filter_append, List.map_append, List.filter_map, List.map_map,
      ← ih, u.candidates_eq]
    rfl

namespace Built

theorem units_regular (h : c.Built) : ∀ u ∈ c.units, u.tree.Regular := by
  intro u hu
  obtain ⟨text, hread⟩ := h.units_read u hu
  exact u.regular_tree (File.read?_regular hread)

/-- What the traversal collects: all attributes of a struct are outer ones, and of a module that has its
content in a file of its own, the attributes are all in which a struct can stand. -/
theorem isCollected_iff (h : c.Built) {s : Place} (hs : s.IsIn c) : s.place.isCollected = true ↔
    (∃ a ∈ s.place.head.attributes, a.inner = false) ∧ ¬ s.place.InOutlineAttribute := by
  have hregular : s.unit.tree.Regular := h.units_regular _ (List.mem_of_getElem? hs.1)
  have houtline : s.place.above.any Label.isOutline = true ↔ s.place.InOutlineAttribute := by
    rw [List.any_eq_true]
    constructor
    · rintro ⟨label, hlabel, hi⟩
      obtain ⟨i, rfl⟩ := Label.isOutline_iff.1 hi
      exact hregular.inOutlineAttribute hs.2 hlabel
    · rintro ⟨outer, i, a, inner, habove⟩
      exact ⟨.module i false, by simp [habove], rfl⟩
  have hattributes : s.place.head.attributes ≠ [] ↔ ∃ a ∈ s.place.head.attributes, a.inner = false := by
    constructor
    · intro hne
      obtain ⟨a, ha⟩ := List.exists_mem_of_ne_nil _ hne
      exact ⟨a, ha, hregular.outer hs.2 a ha⟩
    · rintro ⟨a, ha, -⟩
      exact List.ne_nil_of_mem ha
  rw [← houtline, ← hattributes]
  simp [StructPlace.isCollected, and_comm]

/-- The candidates of a crate are the structs that carry an outer attribute, wherever they stand, each once
and in source order. Those are missing that stand in the value of an attribute of a module which has its
content in a file of its own. -/
theorem candidates_places (h : c.Built) :
    ∃ places : List Place,
      c.candidates = places.map Place.candidate ∧
      places.Pairwise Place.Before ∧
      ∀ s, s ∈ places ↔ s.IsIn c ∧ (∃ a ∈ s.place.head.attributes, a.inner = false) ∧
        ¬ s.place.InOutlineAttribute := by
  refine ⟨(placesFrom 0 c.units).filter fun s => s.place.isCollected, candidates_placesFrom,
    pairwise_placesFrom.filter _, fun s => ?_⟩
  have hmem : s ∈ placesFrom 0 c.units ↔ s.IsIn c := by
    rw [mem_placesFrom]
    simp only [Nat.zero_add]
    exact ⟨fun ⟨i, hunit, hindex, hplace⟩ => ⟨hindex ▸ hunit, hplace⟩,
      fun ⟨hunit, hplace⟩ => ⟨s.index, hunit, rfl, hplace⟩⟩
  rw [List.mem_filter, hmem]
  exact and_congr_right h.isCollected_iff

/-- Structs in a closure, in a module in the default of a trait's function, in an array length, and in an
inline module. `C` stands in an attribute of a module with its content elsewhere, and `E` has no attribute. -/
theorem candidates_places_nested : ∃ c : Crate, c.Built ∧
    c.candidates.map (fun d => (d.unit, d.module, d.head.name.name, d.inBlock)) =
      [("a.rs", ["a"], "A", true), ("b.rs", ["b", "n"], "B", true), ("c.rs", ["c"], "L", true),
        ("d.rs", ["d", "q"], "D", false)] ∧
    ∃ places : List Place,
      c.candidates = places.map Place.candidate ∧
      places.Pairwise Place.Before ∧
      ∀ s, s ∈ places ↔ s.IsIn c ∧ (∃ a ∈ s.place.head.attributes, a.inner = false) ∧
        ¬ s.place.InOutlineAttribute := by
  have hread : (((((⟨"demo", []⟩ : Crate).add "a.rs" ["a"] "fn f(){let g=||{#[a]struct A;};}").bind
      (·.add "b.rs" ["b"] "trait T{fn f(){mod n{#[b]struct B;}}}")).bind
      (·.add "c.rs" ["c"] "const K:[u8;{#[l]struct L;1}]=[0];")).bind
      (·.add "d.rs" ["d"] "#[c={#[c]struct C;1}]mod o;mod r#q{#[d]struct D;struct E;}")).toOption.map
      (fun c => c.candidates.map fun d => (d.unit, d.module, d.head.name.name, d.inBlock)) =
      some [("a.rs", ["a"], "A", true), ("b.rs", ["b", "n"], "B", true), ("c.rs", ["c"], "L", true),
        ("d.rs", ["d", "q"], "D", false)] := by decide +kernel
  obtain ⟨c, hadd, hcandidates⟩ := Option.map_eq_some_iff.1 hread
  obtain ⟨f, hf, hfc⟩ := bind_ok (toOption_eq_some hadd)
  obtain ⟨e, he, hef⟩ := bind_ok hf
  obtain ⟨b, hb, hbe⟩ := bind_ok he
  have hcreate : Crate.create "demo" = .ok ⟨"demo", []⟩ := rfl
  have hbuilt : c.Built := .add (.add (.add (.add (.create hcreate) hb) hbe) hef) hfc
  exact ⟨c, hbuilt, hcandidates, candidates_places hbuilt⟩

end Built

end Crate

end DisplayGen
