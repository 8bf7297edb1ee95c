import DisplayGen.Proofs.Extraction.Declared
import DisplayGen.Proofs.Resolution.Limit

/-!
# Items at the level of modules

An item of a file, or of an inline module that is reached without entering a block, is one that its module
has (`SourceUnit.HasItem`). With what it declares, all modules around it can be named
(`Crate.Built.isModule_of_declares`): the paths of a crate's items form a tree. This rests on how the scope
is made, and on nothing that the crate imports.
-/

namespace DisplayGen

open Source

namespace Source.Tree

/-- The item `t` of the module at the path `module` has the item `t'` of the module at the path `m`: it is
that item, or it is an inline module whose items have it. -/
inductive HasItem : List String → Tree → List String → Tree → Prop where
  | self {module : List String} {t : Tree} : HasItem module t module t
  | within {module m : List String} {i : Ident} {attributes visibility unsafety t t' : Tree}
    {label : Label} {items : List Tree} (ht : t ∈ items) (h : HasItem (module ++ [i.name]) t m t') :
    HasItem module (.node (.module i true) [attributes, visibility, unsafety, .node label items]) m t'

/-- The name under which an item can be named in its module. -/
def declaredName? : Tree → Option Ident
  | .node (.struct head) _ => some head.name
  | .node (.named _ i) _ => some i
  | .node (.macroItem i) _ => i
  | .node (.module i _) _ => some i
  | _ => none

end Source.Tree

/-- The declaration is of something that can be named, at the given path. -/
def Declaration.Names : Declaration → List String → Prop
  | .item path, p => path = p
  | .struct path _, p => path = p
  | .brought _ _, _ => False

/-- The item stands in the module, among the items of the unit or of its inline modules. -/
def SourceUnit.HasItem (u : SourceUnit) (module : List String) (t : Tree) : Prop :=
  ∃ item ∈ u.file.items, item.HasItem u.module module t

namespace Crate

/-- An item at the level of modules is declared at the path. -/
def Declares (c : Crate) (path : List String) : Prop :=
  ∃ u ∈ c.units, ∃ module t i, u.HasItem module t ∧ t.declaredName? = some i ∧ path = module ++ [i.name]

/-- The module is that of a unit, or an inline module at the level of modules. -/
def HasModule (c : Crate) (module : List String) : Prop :=
  ∃ u ∈ c.units, u.module = module ∨
    ∃ outer i children, u.HasItem outer (.node (.module i true) children) ∧ module = outer ++ [i.name]

end Crate

/-! ## What items declare -/

namespace Source.Tree

variable {t t' : Tree} {module m : List String} {i : Ident}

theorem HasItem.isItem (h : t.HasItem module m t') (ht : t.IsItem) : t'.IsItem := by
  induction h with
  | self => exact ht
  | within hmem _ ih =>
    cases ht with
    | inlineModule _ _ _ content => exact ih (content _ hmem)
    | inert h => cases h

/-- An inline module declares what its items do. -/
theorem declarations_subset_inline {attributes visibility unsafety : Tree} {label : Label}
    {items : List Tree} (ht : t ∈ items) : t.declarations (module ++ [i.name]) ⊆ declarations module
      (.node (.module i true) [attributes, visibility, unsafety, .node label items]) := by
  intro d hd
  have hitems : d ∈ declarationsOfAll (module ++ [i.name]) items := by
    rw [declarationsOfAll_eq]
    exact List.mem_flatMap.2 ⟨t, ht, hd⟩
  exact List.mem_cons_of_mem _ hitems

theorem HasItem.declarations_subset (h : t.HasItem module m t') :
    t'.declarations m ⊆ t.declarations module := by
  induction h with
  | self => exact List.Subset.refl _
  | within hmem _ ih => exact List.Subset.trans ih (declarations_subset_inline hmem)

mutual

/-- A declared struct is an item of the module in which it is written. -/
theorem hasItem_of_structsIn (t : Tree) (module : List String) : ∀ d ∈ t.structsIn module,
    ∃ children, t.HasItem module d.module (.node (.struct d.head) children) := by
  unfold structsIn
  split
  · rename_i head children
    intro d hd
    rw [List.mem_singleton.1 hd]
    exact ⟨children, .self⟩
  · rename_i i _ _ _ _ items
    intro d hd
    obtain ⟨t, ht, children, hitem⟩ := hasItem_of_structsInAll items (module ++ [i.name]) d hd
    exact ⟨children, .within ht hitem⟩
  · exact nofun

theorem hasItem_of_structsInAll (ts : List Tree) (module : List String) : ∀ d ∈ structsInAll module ts,
    ∃ t ∈ ts, ∃ children, t.HasItem module d.module (.node (.struct d.head) children) := by
  match ts with
  | [] => exact nofun
  | t :: ts =>
    intro d hd
    rcases List.mem_append.1 hd with hd | hd
    · exact ⟨t, List.mem_cons_self, hasItem_of_structsIn t module d hd⟩
    · obtain ⟨t', ht', hitem⟩ := hasItem_of_structsInAll ts module d hd
      exact ⟨t', List.mem_cons_of_mem _ ht', hitem⟩

end

theorem exists_names (ht : t.IsItem) (hi : t.declaredName? = some i) :
    ∃ d ∈ t.declarations module, d.Names (module ++ [i.name]) := by
  cases ht with
  | @struct head children outer parts =>
    cases hi
    exact ⟨.struct (module ++ [head.name.name]) head, List.mem_singleton_self _, rfl⟩
  | inlineModule | outlineModule =>
    cases hi
    exact ⟨.item (module ++ [i.name]), List.mem_cons_self, rfl⟩
  | inert h =>
    unfold declaredName? at hi
    split at hi
    · cases h
    · cases hi
      exact ⟨.item (module ++ [i.name]), List.mem_singleton_self _, rfl⟩
    · subst hi
      exact ⟨.item (module ++ [i.name]), List.mem_singleton_self _, rfl⟩
    · cases h
    · cases hi

end Source.Tree

/-! ## The modules around an item -/

namespace Scope

variable {s : Scope} {module path : List String} {n : String}

theorem IsModule.concat (h : s.IsModule module) (hn : module ++ [n] ∈ s.items) :
    s.IsModule (module ++ [n]) := by
  intro k hk
  rw [List.length_append, List.length_singleton] at hk
  rcases Nat.lt_succ_iff_lt_or_eq.1 hk with hlt | rfl
  · rw [List.take_append_of_le_length hlt]
    exact h k hlt
  · rwa [List.take_of_length_le (by simp)]

theorem IsModule.initial (h : s.IsModule module) (hpath : path <+: module) : s.IsModule path := by
  obtain ⟨rest, rfl⟩ := hpath
  intro k hk
  have hitem := h k (by rw [List.length_append]; omega)
  rwa [List.take_append_of_le_length hk] at hitem

end Scope

/-- If all that an item declares can be named, so can the modules that it has items in. -/
theorem Source.Tree.HasItem.isModule {s : Scope} {module m : List String} {t t' : Tree}
    (h : t.HasItem module m t') (hmodule : s.IsModule module)
    (hitems : ∀ d ∈ t.declarations module, ∀ path, d.Names path → path ∈ s.items) : s.IsModule m := by
  induction h with
  | self => exact hmodule
  | @within module m i _ _ _ _ _ _ _ hmem _ ih =>
    have hinner : module ++ [i.name] ∈ s.items :=
      hitems (.item (module ++ [i.name])) List.mem_cons_self _ rfl
    exact ih (hmodule.concat hinner) fun d hd => hitems d (declarations_subset_inline hmem hd)

namespace Crate

variable {c : Crate} {u : SourceUnit} {t : Tree} {module path : List String}

theorem mem_scope_items :
    path ∈ c.scope.items ↔ ∃ u ∈ c.units, ∃ d ∈ declarationsOfUnit u, d.Names path := by
  unfold scope scopeOf declarations
  simp only [List.mem_filterMap, List.mem_flatMap]
  constructor
  · rintro ⟨d, ⟨u, hu, hd⟩, hpath⟩
    refine ⟨u, hu, d, hd, ?_⟩
    cases d with
    | item | struct => exact Option.some.inj hpath
    | brought => cases hpath
  · rintro ⟨u, hu, d, hd, hpath⟩
    refine ⟨d, ⟨u, hu, hd⟩, ?_⟩
    cases d with
    | item | struct => exact congrArg some hpath
    | brought => cases hpath

theorem isModule_unit (hu : u ∈ c.units) : c.scope.IsModule u.module := by
  intro n hn
  refine mem_scope_items.2 ⟨u, hu, .item (u.module.take (n + 1)), List.mem_append_left _ ?_, rfl⟩
  exact List.mem_map.2 ⟨n, List.mem_range.2 hn, rfl⟩

theorem exists_hasItem_of_structs {d : DeclaredStruct} (hd : d ∈ c.structs) :
    ∃ u ∈ c.units, ∃ children, u.HasItem d.module (.node (.struct d.head) children) := by
  obtain ⟨u, hu, hd⟩ := List.mem_flatMap.1 hd
  obtain ⟨t, ht, children, hitem⟩ := Tree.hasItem_of_structsInAll u.file.items u.module d hd
  exact ⟨u, hu, children, t, ht, hitem⟩

theorem declares_of_structs {d : DeclaredStruct} (hd : d ∈ c.structs) : c.Declares d.path := by
  obtain ⟨u, hu, children, hitem⟩ := exists_hasItem_of_structs hd
  exact ⟨u, hu, d.module, _, d.head.name, hitem, rfl, rfl⟩

theorem declarationsOfUnit_subset (ht : u.HasItem module t) :
    t.declarations module ⊆ declarationsOfUnit u := by
  obtain ⟨item, hitem, ht⟩ := ht
  intro d hd
  refine List.mem_append_right _ ?_
  rw [Tree.declarationsOfAll_eq]
  exact List.mem_flatMap.2 ⟨item, hitem, ht.declarations_subset hd⟩

/-- The module in which an item stands can be named, and so can those around it. -/
theorem isModule_of_hasItem (hu : u ∈ c.units) (ht : u.HasItem module t) : c.scope.IsModule module := by
  obtain ⟨item, hitem, ht⟩ := ht
  refine ht.isModule (isModule_unit hu) fun d hd path hpath => ?_
  exact mem_scope_items.2 ⟨u, hu, d, declarationsOfUnit_subset ⟨item, hitem, .self⟩ hd, hpath⟩

/-- The modules around a declared struct can be named. -/
theorem isModule_of_structs {d : DeclaredStruct} (hd : d ∈ c.structs) : c.scope.IsModule d.module := by
  obtain ⟨u, hu, children, hitem⟩ := exists_hasItem_of_structs hd
  exact isModule_of_hasItem hu hitem

namespace Built

theorem isItem_of_hasItem (h : c.Built) (hu : u ∈ c.units) (ht : u.HasItem module t) : t.IsItem := by
  obtain ⟨item, hitem, ht⟩ := ht
  exact ht.isItem ((h.units_shaped u hu).items item hitem)

theorem isModule_concat (h : c.Built) (hu : u ∈ c.units) (ht : u.HasItem module t) {i : Ident}
    (hi : t.declaredName? = some i) : c.scope.IsModule (module ++ [i.name]) := by
  have hitem := h.isItem_of_hasItem hu ht
  obtain ⟨d, hd, hnames⟩ : ∃ d ∈ t.declarations module, d.Names (module ++ [i.name]) :=
    Tree.exists_names hitem hi
  have hdeclared := declarationsOfUnit_subset ht hd
  exact (isModule_of_hasItem hu ht).concat (mem_scope_items.2 ⟨u, hu, d, hdeclared, hnames⟩)

/-- What is declared can be named, with the modules around it. -/
theorem isModule_of_declares (h : c.Built) (hpath : c.Declares path) : c.scope.IsModule path := by
  obtain ⟨u, hu, module, t, i, ht, hi, rfl⟩ := hpath
  exact h.isModule_concat hu ht hi

theorem isModule_of_hasModule (h : c.Built) (hmodule : c.HasModule module) : c.scope.IsModule module := by
  obtain ⟨u, hu, rfl | ⟨outer, i, children, ht, rfl⟩⟩ := hmodule
  · exact isModule_unit hu
  · exact h.isModule_concat hu ht rfl

end Built

end Crate

end DisplayGen
