import DisplayGen.Proofs.Extraction.Declared
import Mathlib.Data.List.Forall2

/-!
# The leaves of a `use` declaration

A `use` declaration is a tree, and what it brings into its module hangs on the leaves alone: a leaf and the
names on the way to it tell the import, however the way is divided into paths and groups.

* `Source.UseTree.leaves`: the leaves of a tree in source order; `UseLeaf.tree` is the tree that has one leaf
  only.
* `Source.UseTree.flatten`: the walk through a tree that keeps one list of names for the way, longer on the way
  down and shorter again on the way back. `flatten_eq`: it leaves the list as it was, and finds the imports.
* `Source.UseLeaf.Brings`: which import a leaf brings; a silent one brings none.
* `Source.UseTree.imports_leaves`: the imports of a tree are those of its leaves, one by one, so a declaration
  can be replaced by one for each leaf.
-/

namespace DisplayGen

open Source

namespace Source

/-- What stands at a leaf of a `use` tree. -/
inductive UseEnd where
  | name (name : Ident)
  | rename (name bound : Ident)
  | glob

/-- A leaf of a `use` tree, with the names on the way to it. -/
structure UseLeaf where
  way : List Ident
  last : UseEnd

namespace UseEnd

/-- The tree of nothing but this. -/
def tree : UseEnd → UseTree
  | name i => .name i
  | rename i bound => .rename i bound
  | glob => .glob

end UseEnd

namespace UseLeaf

/-- The leaf with one more name in front of its way. -/
def behind (i : Ident) (l : UseLeaf) : UseLeaf := { l with way := i :: l.way }

/-- The tree that has this leaf only. -/
def tree (l : UseLeaf) : UseTree := l.way.foldr .path l.last.tree

/-- The names on the way, without `r#`. -/
def names (l : UseLeaf) : List String := l.way.map Ident.name

/-- The leaf brings nothing into the module: it is renamed to `_`, or it is the word `self` with nothing
before it. -/
def isSilent (l : UseLeaf) : Bool :=
  match l.last with
  | .name i => l.way.isEmpty && i.name == "self"
  | .rename _ bound => bound.name == "_"
  | .glob => false

/-- The import that a leaf brings into the module. -/
inductive Brings (leading : Bool) : UseLeaf → Import → Prop where
  | name (way : List Ident) (i : Ident) (h : i.name ≠ "self") :
      Brings leading ⟨way, .name i⟩ (.named i.name ⟨leading, way.map Ident.name ++ [i.name]⟩)
  /-- The word `self` stands for the last name before it. -/
  | self (way : List Ident) (j i : Ident) (h : i.name = "self") :
      Brings leading ⟨way ++ [j], .name i⟩ (.named j.name ⟨leading, way.map Ident.name ++ [j.name]⟩)
  | rename (way : List Ident) (i bound : Ident) (h : i.name ≠ "self") (hbound : bound.name ≠ "_") :
      Brings leading ⟨way, .rename i bound⟩ (.named bound.name ⟨leading, way.map Ident.name ++ [i.name]⟩)
  | renameSelf (way : List Ident) (i bound : Ident) (h : i.name = "self") (hbound : bound.name ≠ "_") :
      Brings leading ⟨way, .rename i bound⟩ (.named bound.name ⟨leading, way.map Ident.name⟩)
  | glob (way : List Ident) : Brings leading ⟨way, .glob⟩ (.glob ⟨leading, way.map Ident.name⟩)

end UseLeaf

/-- What a walk through a `use` tree keeps: the names on the way to where it stands, and what it has found. -/
structure UseWalk where
  way : List String
  found : List Import

namespace UseTree

mutual

/-- The leaves of a tree, in source order. -/
def leaves : UseTree → List UseLeaf
  | .path i t => (leaves t).map (UseLeaf.behind i)
  | .name i => [⟨[], .name i⟩]
  | .rename i bound => [⟨[], .rename i bound⟩]
  | .glob => [⟨[], .glob⟩]
  | .group ts => leavesOfAll ts

/-- The leaves of several trees. -/
def leavesOfAll : List UseTree → List UseLeaf
  | [] => []
  | t :: ts => leaves t ++ leavesOfAll ts

end

mutual

/-- Walks through a tree. The name of a path is put behind the way, and taken away again behind the path. -/
def flatten (leading : Bool) : UseTree → UseWalk → UseWalk
  | .path i t, w =>
    let w := flatten leading t { w with way := w.way ++ [i.name] }
    { w with way := w.way.dropLast }
  | .name i, w => { w with found := w.found ++ nameImport leading w.way i.name }
  | .rename i bound, w => { w with found := w.found ++ renameImport leading w.way i.name bound.name }
  | .glob, w => { w with found := w.found ++ [.glob ⟨leading, w.way⟩] }
  | .group ts, w => flattenAll leading ts w

/-- Walks through several trees, one after the other. -/
def flattenAll (leading : Bool) : List UseTree → UseWalk → UseWalk
  | [], w => w
  | t :: ts, w => flattenAll leading ts (flatten leading t w)

end

mutual

/-- A walk ends where it began, and has found the imports of the tree. -/
theorem flatten_eq (leading : Bool) (t : UseTree) (w : UseWalk) :
    t.flatten leading w = ⟨w.way, w.found ++ t.imports leading w.way⟩ := by
  match t with
  | .path i t =>
    unfold flatten imports
    rw [flatten_eq leading t]
    dsimp only
    rw [List.dropLast_concat]
  | .name i | .rename i bound | .glob => rfl
  | .group ts => exact flattenAll_eq leading ts w

theorem flattenAll_eq (leading : Bool) (ts : List UseTree) (w : UseWalk) :
    flattenAll leading ts w = ⟨w.way, w.found ++ importsOfAll leading w.way ts⟩ := by
  match ts with
  | [] =>
    unfold flattenAll importsOfAll
    rw [List.append_nil]
  | t :: ts =>
    unfold flattenAll importsOfAll
    rw [flatten_eq leading t, flattenAll_eq leading ts, List.append_assoc]

end

mutual

/-- The imports of a tree are those of its leaves. -/
theorem imports_eq_flatMap (leading : Bool) (before : List String) (t : UseTree) :
    t.imports leading before = t.leaves.flatMap fun l => l.tree.imports leading before := by
  match t with
  | .path i t =>
    unfold imports leaves
    rw [imports_eq_flatMap leading _ t, List.flatMap_map]
    rfl
  | .name i | .rename i bound | .glob => exact (List.append_nil _).symm
  | .group ts => exact importsOfAll_eq_flatMap leading before ts

theorem importsOfAll_eq_flatMap (leading : Bool) (before : List String) (ts : List UseTree) :
    importsOfAll leading before ts =
      (leavesOfAll ts).flatMap fun l => l.tree.imports leading before := by
  match ts with
  | [] => rfl
  | t :: ts =>
    unfold importsOfAll leavesOfAll
    rw [imports_eq_flatMap leading before t, importsOfAll_eq_flatMap leading before ts, List.flatMap_append]

end

end UseTree

/-! ## What a leaf brings -/

namespace UseLeaf

/-- A leaf is imported behind the names on its way. -/
theorem imports_tree (leading : Bool) (before : List String) (l : UseLeaf) :
    l.tree.imports leading before = l.last.tree.imports leading (before ++ l.names) := by
  obtain ⟨way, last⟩ := l
  induction way generalizing before with
  | nil => rw [names, List.map_nil, List.append_nil]; rfl
  | cons i way ih =>
    have hstep : (tree ⟨i :: way, last⟩).imports leading before =
        (tree ⟨way, last⟩).imports leading (before ++ [i.name]) := by
      rw [tree, List.foldr_cons, UseTree.imports]
      rfl
    rw [hstep, ih, List.append_assoc]
    rfl

/-- A silent leaf brings nothing, and any other one import. -/
theorem imports_cases (leading : Bool) (l : UseLeaf) :
    (l.isSilent = true ∧ l.tree.imports leading [] = []) ∨
      l.isSilent = false ∧ ∃ m, l.tree.imports leading [] = [m] ∧ l.Brings leading m := by
  rw [imports_tree, List.nil_append]
  obtain ⟨way, last⟩ := l
  cases last with
  | name i =>
    have himports : (UseEnd.name i).tree.imports leading (way.map Ident.name) =
        UseTree.nameImport leading (way.map Ident.name) i.name := rfl
    unfold isSilent names
    dsimp only
    rw [himports]
    by_cases hself : i.name = "self"
    · -- the word takes the last name before it, and without one there is nothing to bind
      rcases List.eq_nil_or_concat way with rfl | ⟨way, j, rfl⟩
      · simp [UseTree.nameImport, hself]
      · rw [List.concat_eq_append]
        refine .inr ⟨by simp, _, ?_, .self way j i hself⟩
        simp [UseTree.nameImport, hself]
    · exact .inr ⟨by simp [hself], _, if_neg hself, .name way i hself⟩
  | rename i bound =>
    have himports : (UseEnd.rename i bound).tree.imports leading (way.map Ident.name) =
        UseTree.renameImport leading (way.map Ident.name) i.name bound.name := rfl
    unfold isSilent names
    dsimp only
    rw [himports]
    unfold UseTree.renameImport
    by_cases hbound : bound.name = "_"
    · simp [hbound]
    · by_cases hself : i.name = "self"
      · refine .inr ⟨by simpa using hbound, _, ?_, .renameSelf way i bound hself hbound⟩
        rw [if_neg hbound, if_pos hself]
      · refine .inr ⟨by simpa using hbound, _, ?_, .rename way i bound hself hbound⟩
        rw [if_neg hbound, if_neg hself]
  | glob => exact .inr ⟨rfl, _, rfl, .glob way⟩

theorem brings_imports (leading : Bool) (ls : List UseLeaf) :
    List.Forall₂ (Brings leading) (ls.filter fun l => !l.isSilent)
      (ls.flatMap fun l => l.tree.imports leading []) := by
  induction ls with
  | nil => exact .nil
  | cons l ls ih =>
    rw [List.filter_cons, List.flatMap_cons]
    rcases l.imports_cases leading with ⟨hsilent, hnone⟩ | ⟨hloud, m, hone, hbrings⟩
    · rw [hsilent, hnone]
      exact ih
    · rw [hloud, hone]
      exact .cons hbrings ih

end UseLeaf

/-! ## One declaration for each leaf -/

/-- Among the items, or in one of them at any depth, the declaration of the tree is replaced by one for each
leaf. -/
inductive Splits (leading : Bool) (t : UseTree) : List Tree → List Tree → Prop where
  | here (before parts after : List Tree) :
      Splits leading t (before ++ .node (.use leading t) parts :: after)
        (before ++ t.leaves.map (fun l => .node (.use leading l.tree) parts) ++ after)
  /-- In the content of a module. -/
  | inModule {items items' : List Tree} (h : Splits leading t items items') (before after : List Tree)
      (i : Ident) (inline : Bool) (attributes visibility unsafety : Tree) (label : Label) :
      Splits leading t
        (before ++ .node (.module i inline) [attributes, visibility, unsafety, .node label items] :: after)
        (before ++ .node (.module i inline) [attributes, visibility, unsafety, .node label items'] :: after)
  /-- In the attributes of a module. -/
  | inAttributes {parts parts' : List Tree} (h : Splits leading t parts parts') (before after : List Tree)
      (i : Ident) (inline : Bool) (label : Label) (visibility unsafety content : Tree) :
      Splits leading t
        (before ++ .node (.module i inline) [.node label parts, visibility, unsafety, content] :: after)
        (before ++ .node (.module i inline) [.node label parts', visibility, unsafety, content] :: after)
  /-- In what is no module, as in a block. -/
  | within {children children' : List Tree} (h : Splits leading t children children')
      (before after : List Tree) (label : Label) (hlabel : ∀ i inline, label ≠ .module i inline) :
      Splits leading t (before ++ .node label children :: after) (before ++ .node label children' :: after)

namespace Tree

variable {module : List String}

theorem declarationsOfAll_replace {item item' : Tree}
    (h : item'.declarations module = item.declarations module) (before after : List Tree) :
    declarationsOfAll module (before ++ item' :: after) = declarationsOfAll module (before ++ item :: after) := by
  simp only [declarationsOfAll_eq, List.flatMap_append, List.flatMap_cons, h]

/-- The declarations of the leaves bring what the declaration of the tree does. -/
theorem declarationsOfAll_leaves (module : List String) (leading : Bool) (t : UseTree)
    (parts : List Tree) :
    declarationsOfAll module (t.leaves.map fun l => .node (.use leading l.tree) parts) =
      (Tree.node (.use leading t) parts).declarations module := by
  have hleaf : ∀ t : UseTree, (Tree.node (.use leading t) parts).declarations module =
      (t.imports leading []).map (Declaration.brought module) := fun _ => rfl
  rw [declarationsOfAll_eq, List.flatMap_map, hleaf, UseTree.imports_eq_flatMap, List.map_flatMap]
  rfl

end Tree

theorem Splits.declarations {leading : Bool} {t : UseTree} {items items' : List Tree}
    (h : Splits leading t items items') (module : List String) :
    Tree.declarationsOfAll module items' = Tree.declarationsOfAll module items := by
  induction h generalizing module with
  | here before parts after =>
    have hleaves := Tree.declarationsOfAll_leaves module leading t parts
    simp only [Tree.declarationsOfAll_eq, List.flatMap_append, List.flatMap_cons] at hleaves ⊢
    rw [hleaves, List.append_assoc]
  | inModule _ before after i inline attributes visibility unsafety label ih =>
    refine Tree.declarationsOfAll_replace ?_ before after
    -- what is in the module is declared one level further down
    exact congrArg (List.cons (.item (module ++ [i.name]))) (ih (module ++ [i.name]))
  | inAttributes _ before after i inline label visibility unsafety content =>
    refine Tree.declarationsOfAll_replace ?_ before after
    cases content with
    | leaf | node => rfl
  | within _ before after label hlabel =>
    refine Tree.declarationsOfAll_replace ?_ before after
    cases label with
    | module i inline => exact absurd rfl (hlabel i inline)
    | macroItem i => cases i <;> rfl
    | _ => rfl

end Source

namespace Crate

/-- In one unit of the crate, the declaration of the tree is replaced by one for each leaf. -/
inductive SplitsUse (leading : Bool) (t : UseTree) : Crate → Crate → Prop where
  | inItems {attributes items items' : List Tree} (h : Splits leading t items items') (name unit : String)
      (module : List String) (before after : List SourceUnit) :
      SplitsUse leading t ⟨name, before ++ ⟨unit, module, ⟨attributes, items⟩⟩ :: after⟩
        ⟨name, before ++ ⟨unit, module, ⟨attributes, items'⟩⟩ :: after⟩
  | inAttributes {attributes attributes' items : List Tree} (h : Splits leading t attributes attributes')
      (name unit : String) (module : List String) (before after : List SourceUnit) :
      SplitsUse leading t ⟨name, before ++ ⟨unit, module, ⟨attributes, items⟩⟩ :: after⟩
        ⟨name, before ++ ⟨unit, module, ⟨attributes', items⟩⟩ :: after⟩

theorem SplitsUse.scope_eq {leading : Bool} {t : UseTree} {c c' : Crate} (h : c.SplitsUse leading t c') :
    c'.scope = c.scope := by
  have hdeclarations : c'.name = c.name ∧ c'.declarations = c.declarations := by
    cases h with
    | inItems h name unit module before after =>
      refine ⟨rfl, ?_⟩
      unfold declarations
      rw [List.flatMap_append, List.flatMap_append, List.flatMap_cons, List.flatMap_cons]
      unfold declarationsOfUnit
      rw [h.declarations]
    | inAttributes h name unit module before after =>
      refine ⟨rfl, ?_⟩
      unfold declarations
      rw [List.flatMap_append, List.flatMap_append, List.flatMap_cons, List.flatMap_cons]
      rfl
  unfold scope
  rw [hdeclarations.1, hdeclarations.2]

end Crate

/-- A walk through a tree leaves the way as it was and finds the imports of the tree, in source order: one for
each leaf that is not silent, and what this leaf says. A declaration of the tree can be replaced by one for each
leaf, in order, wherever it stands in a crate: all paths name the same. -/
theorem Source.UseTree.imports_leaves (leading : Bool) (t : UseTree) :
    (∀ found, t.flatten leading ⟨[], found⟩ = ⟨[], found ++ t.imports leading []⟩) ∧
    List.Forall₂ (UseLeaf.Brings leading) (t.leaves.filter fun l => !l.isSilent) (t.imports leading []) ∧
    ∀ c c' : Crate, c.SplitsUse leading t c' →
      ∀ module path, c'.scope.resolve module path = c.scope.resolve module path := by
  refine ⟨fun found => t.flatten_eq leading ⟨[], found⟩, ?_, fun c c' h module path => ?_⟩
  · rw [t.imports_eq_flatMap]
    exact UseLeaf.brings_imports leading t.leaves
  · rw [h.scope_eq]

/-- The tree of `crate::{a::{self, M as N}, a as _}`. -/
def Source.UseTree.grouped : UseTree :=
  .path (.plain "crate") (.group [.path (.plain "a") (.group [.name (.plain "self"),
    .rename (.plain "M") (.plain "N")]), .rename (.plain "a") (.plain "_")])

/-- In an inline module, the declaration is replaced by three, of which one brings nothing. -/
theorem Source.UseTree.imports_leaves_grouped : ∃ c c' : Crate, c.SplitsUse false .grouped c' ∧
    UseTree.grouped.leaves.map UseLeaf.isSilent = [false, false, true] ∧
    c.scope.importsOf ["m"] = [.named "a" ⟨false, ["crate", "a"]⟩, .named "N" ⟨false, ["crate", "a", "M"]⟩] ∧
    c'.scope.resolve ["m"] ⟨false, ["N"]⟩ = some ⟨"demo", ["a", "M"]⟩ := by
  have hitems : Splits false .grouped [.node (.module (.plain "m") true)
      [.list [], .list [], .list [], .list [.node (.use false .grouped) []]]] _ :=
    .inModule (.here [] [] []) [] [] _ true _ _ _ _
  have hsplits : Crate.SplitsUse false .grouped ⟨"demo", [⟨"lib.rs", [], ⟨[], _⟩⟩]⟩ _ :=
    .inItems hitems _ _ _ [] []
  obtain ⟨-, -, hresolve⟩ := imports_leaves false .grouped
  refine ⟨_, _, hsplits, by decide, by decide, ?_⟩
  rw [hresolve _ _ hsplits]
  decide +kernel

end DisplayGen
