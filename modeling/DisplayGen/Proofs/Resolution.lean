import DisplayGen.Crate
import Mathlib.Data.List.Basic

/-!
# What resolution can reach

Resolution never makes up a name: all names on the path of what it finds stand in the module where it
starts, in the path that is followed, or in an import (`Scope.resolve_names`). The imports of a crate
are written with identifiers (`Crate.scope_imports`), so whatever holds of identifiers holds of all that
is found from such a module.

A path from `crate` on leads along the items that it names, if all of them are there
(`Scope.resolve_crate`).
-/

namespace DisplayGen

open Source

/-! ## Imports are written with identifiers -/

/-- The path that an import brings something from. -/
def Import.path : Import → WrittenPath
  | named _ target => target
  | glob base => base

/-- The names are those of identifiers. -/
def AreIdentNames (names : List String) : Prop := ∀ n ∈ names, ∃ i : Ident, i.name = n

theorem AreIdentNames.concat {names : List String} (h : AreIdentNames names) (i : Ident) :
    AreIdentNames (names ++ [i.name]) := by
  intro n hn
  rcases List.mem_append.1 hn with hn | hn
  · exact h n hn
  · exact ⟨i, (List.mem_singleton.1 hn).symm⟩

namespace Source.UseTree

variable {leading : Bool} {before : List String}

theorem nameImport_path (h : AreIdentNames before) (i : Ident) :
    ∀ m ∈ nameImport leading before i.name, AreIdentNames m.path.segments := by
  unfold nameImport
  intro m hm
  split at hm
  · split at hm
    · rw [List.mem_singleton.1 hm]
      exact h
    · cases hm
  · rw [List.mem_singleton.1 hm]
    exact h.concat i

theorem renameImport_path (h : AreIdentNames before) (i : Ident) (bound : String) :
    ∀ m ∈ renameImport leading before i.name bound, AreIdentNames m.path.segments := by
  unfold renameImport
  intro m hm
  split at hm
  · cases hm
  · split at hm
    · rw [List.mem_singleton.1 hm]
      exact h
    · rw [List.mem_singleton.1 hm]
      exact h.concat i

mutual

theorem imports_path (t : UseTree) (before : List String) (h : AreIdentNames before) :
    ∀ m ∈ t.imports leading before, AreIdentNames m.path.segments := by
  match t with
  | .path i t => exact imports_path t _ (h.concat i)
  | .name i => exact nameImport_path h i
  | .rename i bound => exact renameImport_path h i bound.name
  | .glob =>
    intro m hm
    rw [List.mem_singleton.1 hm]
    exact h
  | .group ts => exact importsOfAll_path ts before h

theorem importsOfAll_path (ts : List UseTree) (before : List String) (h : AreIdentNames before) :
    ∀ m ∈ importsOfAll leading before ts, AreIdentNames m.path.segments := by
  match ts with
  | [] => intro m hm; cases hm
  | t :: ts =>
    exact List.forall_mem_append.2 ⟨imports_path t before h, importsOfAll_path ts before h⟩

end

end Source.UseTree

namespace Source.Tree

mutual

theorem brought_declarations (t : Tree) (module : List String) {into : List String} {m : Import}
    (h : .brought into m ∈ t.declarations module) : AreIdentNames m.path.segments := by
  unfold declarations at h
  split at h
  · simp at h
  · simp at h
  · simp at h
  · rcases List.mem_cons.1 h with h | h
    · cases h
    · exact brought_declarationsOfAll _ _ h
  · obtain ⟨m', hm', heq⟩ := List.mem_map.1 h
    cases heq
    refine UseTree.imports_path _ [] ?_ m hm'
    intro n hn
    cases hn
  · cases h

theorem brought_declarationsOfAll (ts : List Tree) (module : List String) {into : List String}
    {m : Import} (h : .brought into m ∈ declarationsOfAll module ts) :
    AreIdentNames m.path.segments := by
  match ts with
  | [] => cases h
  | t :: ts =>
    rcases List.mem_append.1 h with h | h
    · exact brought_declarations t module h
    · exact brought_declarationsOfAll ts module h

end

end Source.Tree

theorem Crate.scope_imports (c : Crate) : ∀ d ∈ c.scope.imports, AreIdentNames d.2.path.segments := by
  intro d hd
  obtain ⟨decl, hdecl, heq⟩ := List.mem_filterMap.1 hd
  split at heq
  · rename_i module m
    cases heq
    obtain ⟨u, -, hu⟩ := List.mem_flatMap.1 hdecl
    rcases List.mem_append.1 hu with hu | hu
    · obtain ⟨n, -, hn⟩ := List.mem_map.1 hu
      cases hn
    · exact Tree.brought_declarationsOfAll _ _ hu
  · cases heq

namespace Scope

variable {s : Scope} {P : String → Prop} {module path : List String} {found : Symbol}

/-! ## The names on the way -/

theorem importNamed_mem {name : String} {imports : List Import} {target : WrittenPath}
    (h : importNamed name imports = some target) : ∃ m ∈ imports, m.path = target := by
  obtain ⟨m, hm, heq⟩ := List.exists_of_findSome?_eq_some h
  refine ⟨m, hm, ?_⟩
  split at heq
  · split at heq
    · exact Option.some.inj heq
    · cases heq
  · cases heq

theorem globBases_mem {imports : List Import} {base : WrittenPath} (h : base ∈ globBases imports) :
    ∃ m ∈ imports, m.path = base := by
  obtain ⟨m, hm, heq⟩ := List.mem_filterMap.1 h
  refine ⟨m, hm, ?_⟩
  split at heq
  · cases heq
  · exact Option.some.inj heq

theorem mem_importsOf {m : Import} (h : m ∈ s.importsOf module) : ∃ d ∈ s.imports, d.2 = m := by
  obtain ⟨d, hd, heq⟩ := List.mem_map.1 h
  exact ⟨d, (List.mem_filter.1 hd).1, heq⟩

theorem walk_names {look : List String → String → Option Symbol} {start : Symbol}
    (hlook : ∀ module n found, (∀ m ∈ module, P m) → P n → look module n = some found →
      ∀ m ∈ found.path, P m)
    (hstart : ∀ m ∈ start.path, P m) (hpath : ∀ m ∈ path, P m) :
    ∀ m ∈ (s.walk look start path).path, P m := by
  induction path generalizing start with
  | nil => exact hstart
  | cons n rest ih =>
    have hjoin : ∀ m ∈ (start.join (n :: rest)).path, P m := List.forall_mem_append.2 ⟨hstart, hpath⟩
    obtain ⟨hn, hrest⟩ := List.forall_mem_cons.1 hpath
    unfold walk
    split
    · split
      · rename_i next hnext
        exact ih (hlook _ _ _ hstart hn hnext) hrest
      · exact hjoin
    · exact hjoin

theorem ascend_names {base rest : List String} (h : ascend module path = some (base, rest))
    (hmodule : ∀ m ∈ module, P m) (hpath : ∀ m ∈ path, P m) :
    (∀ m ∈ base, P m) ∧ ∀ m ∈ rest, P m := by
  fun_induction ascend module path with
  | case1 => cases h
  | case2 module rest' _ ih =>
    exact ih h (fun m hm => hmodule m (List.dropLast_subset module hm)) (List.forall_mem_cons.1 hpath).2
  | case3 =>
    cases h
    exact ⟨hmodule, hpath⟩

/-- Following paths, up to some depth, makes up no names. -/
def ResolvesWithin (s : Scope) (P : String → Prop) (fuel : Nat) : Prop :=
  ∀ module path found, (∀ m ∈ module, P m) → (∀ m ∈ path.segments, P m) →
    s.resolveWithin fuel module path = some found → ∀ m ∈ found.path, P m

/-- Looking names up, up to some depth, makes up no names. -/
def LooksUpWithin (s : Scope) (P : String → Prop) (fuel : Nat) : Prop :=
  ∀ module n found, (∀ m ∈ module, P m) → P n →
    s.lookupWithin fuel module n = some found → ∀ m ∈ found.path, P m

section

variable (himports : ∀ module, ∀ m ∈ s.importsOf module, ∀ n ∈ m.path.segments, P n) {fuel : Nat}
  (hresolve : s.ResolvesWithin P fuel) (hlookup : s.LooksUpWithin P fuel)

include himports hresolve hlookup

theorem resolvesWithin_succ : s.ResolvesWithin P (fuel + 1) := by
  rintro module ⟨leading, segments⟩ found hmodule hpath h
  cases segments with
  | nil =>
    unfold resolveWithin at h
    cases h
  | cons first rest =>
    obtain ⟨hfirst, hrest⟩ := List.forall_mem_cons.1 hpath
    have hwalk : ∀ {start : Symbol} {rest : List String}, (∀ m ∈ start.path, P m) →
        (∀ m ∈ rest, P m) → ∀ m ∈ (s.walk (s.lookupWithin fuel) start rest).path, P m :=
      fun hstart hrest => walk_names hlookup hstart hrest
    cases leading with
    | true =>
      unfold resolveWithin at h
      cases h
      exact hrest
    | false =>
      unfold resolveWithin at h
      extract_lets walk at h
      split at h
      · cases h
        exact hwalk (by simp [localSymbol]) hrest
      split at h
      · split at h
        · exact hresolve _ _ _ hmodule hrest h
        · cases h
          exact hwalk hmodule hrest
      split at h
      · split at h
        · rename_i base rest' hascend
          cases h
          obtain ⟨hbase, hrest'⟩ := ascend_names hascend hmodule hpath
          exact hwalk hbase hrest'
        · cases h
      split at h
      · rename_i target htarget
        obtain ⟨m, hm, rfl⟩ := importNamed_mem htarget
        split at h
        · rename_i start hstart
          cases h
          exact hwalk (hresolve _ _ _ hmodule (himports _ m hm) hstart) hrest
        · cases h
      · split at h
        · rename_i start hstart
          cases h
          exact hwalk (hlookup _ _ _ hmodule hfirst hstart) hrest
        · split at h
          · cases h
          · cases h
            exact hrest

theorem looksUpWithin_succ : s.LooksUpWithin P (fuel + 1) := by
  intro module n found hmodule hn h
  unfold lookupWithin at h
  split at h
  · cases h
    exact List.forall_mem_append.2 ⟨hmodule, List.forall_mem_singleton.2 hn⟩
  · split at h
    · rename_i target htarget
      obtain ⟨m, hm, rfl⟩ := importNamed_mem htarget
      exact hresolve _ _ _ hmodule (himports _ m hm) h
    · obtain ⟨base, hbase, h⟩ := List.exists_of_findSome?_eq_some h
      obtain ⟨m, hm, rfl⟩ := globBases_mem hbase
      split at h
      · rename_i start hstart
        split at h
        · exact hlookup _ _ _ (hresolve _ _ _ hmodule (himports _ m hm) hstart) hn h
        · cases h
      · cases h

end

theorem names_within (himports : ∀ module, ∀ m ∈ s.importsOf module, ∀ n ∈ m.path.segments, P n)
    (fuel : Nat) : s.ResolvesWithin P fuel ∧ s.LooksUpWithin P fuel := by
  induction fuel with
  | zero =>
    constructor
    · intro module path found _ _ h
      unfold resolveWithin at h
      cases h
    · intro module n found _ _ h
      unfold lookupWithin at h
      cases h
  | succ fuel ih =>
    exact ⟨resolvesWithin_succ himports ih.1 ih.2, looksUpWithin_succ himports ih.1 ih.2⟩

/-- What a path is resolved to has no other names on its path than the module, the path and the imports
have. -/
theorem resolve_names (himports : ∀ d ∈ s.imports, ∀ m ∈ d.2.path.segments, P m)
    {written : WrittenPath} (hmodule : ∀ m ∈ module, P m) (hpath : ∀ m ∈ written.segments, P m)
    (h : s.resolve module written = some found) : ∀ m ∈ found.path, P m := by
  have himports' : ∀ module, ∀ m ∈ s.importsOf module, ∀ n ∈ m.path.segments, P n := by
    intro module m hm
    obtain ⟨d, hd, rfl⟩ := mem_importsOf hm
    exact himports d hd
  exact (names_within himports' _).1 _ _ _ hmodule hpath h

/-! ## Paths along items -/

theorem items_cons {before rest : List String} {n : String}
    (h : ∀ k, k < (n :: rest).length → before ++ (n :: rest).take (k + 1) ∈ s.items) :
    before ++ [n] ∈ s.items ∧ ∀ k, k < rest.length → before ++ [n] ++ rest.take (k + 1) ∈ s.items := by
  refine ⟨h 0 (by simp), fun k hk => ?_⟩
  have hnext := h (k + 1) (by rw [List.length_cons]; omega)
  rwa [List.take_succ_cons, ← List.singleton_append, ← List.append_assoc] at hnext

theorem lookupWithin_item {fuel : Nat} {module : List String} {n : String} (h : module ++ [n] ∈ s.items) :
    s.lookupWithin (fuel + 1) module n = some (s.localSymbol (module ++ [n])) := by
  unfold lookupWithin
  rw [if_pos (List.contains_iff_mem.2 h)]

/-- Items on the way are walked along, whatever follows. -/
theorem walk_append_items {fuel : Nat} {before rest : List String}
    (h : ∀ n, n < rest.length → before ++ rest.take (n + 1) ∈ s.items) (more : List String) :
    s.walk (s.lookupWithin (fuel + 1)) (s.localSymbol before) (rest ++ more) =
      s.walk (s.lookupWithin (fuel + 1)) (s.localSymbol (before ++ rest)) more := by
  induction rest generalizing before with
  | nil => rw [List.nil_append, List.append_nil]
  | cons n rest ih =>
    obtain ⟨hitem, hrest⟩ := items_cons h
    have hcrate : (s.localSymbol before).crate = s.crateName := rfl
    have hpath : (s.localSymbol before).path = before := rfl
    rw [List.cons_append, walk, if_pos hcrate, hpath, lookupWithin_item hitem]
    dsimp only
    rw [ih hrest, List.append_assoc, List.singleton_append]

theorem walk_items {fuel : Nat} {before rest : List String}
    (h : ∀ n, n < rest.length → before ++ rest.take (n + 1) ∈ s.items) :
    s.walk (s.lookupWithin (fuel + 1)) (s.localSymbol before) rest = s.localSymbol (before ++ rest) := by
  calc s.walk (s.lookupWithin (fuel + 1)) (s.localSymbol before) rest
      = s.walk (s.lookupWithin (fuel + 1)) (s.localSymbol before) (rest ++ []) := by rw [List.append_nil]
    _ = s.localSymbol (before ++ rest) := walk_append_items h []

/-- A path from the crate on along items leads to the last of them, from every module. -/
theorem resolve_crate (h : ∀ n, n < path.length → path.take (n + 1) ∈ s.items) (module : List String) :
    s.resolve module ⟨false, "crate" :: path⟩ = some (s.localSymbol path) := by
  have hwalk : s.walk (s.lookupWithin resolutionLimit) (s.localSymbol []) path = s.localSymbol path :=
    walk_items h
  unfold resolve resolveWithin
  rw [if_pos rfl]
  exact congrArg some hwalk

end Scope

end DisplayGen
