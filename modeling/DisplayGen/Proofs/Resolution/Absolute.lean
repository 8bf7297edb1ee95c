import DisplayGen.Proofs.Resolution.Items
import Mathlib.Data.List.DropRight

/-!
# Paths within the crate

A path from `crate` on goes down from module to module, and at each of them an item wins over every import.
Since all modules around an item can be named, no import is ever followed on the way to it.

* `Crate.Built.resolve_declared`: the absolute path of a declared item, or of a module, names just that,
  from everywhere.
* `Crate.Built.resolve_relative`: a path from `super` or `self` on names what the absolute path does that
  begins with the module it goes up to; above the crate there is nothing.
-/

namespace DisplayGen

open Source

namespace Scope

variable {s : Scope} {module path rest : List String} {k : Nat}

/-- Along a module, an absolute path leads to that module, and goes on from there. -/
theorem resolve_crate_append (h : s.IsModule path) (rest module : List String) :
    s.resolve module ⟨false, "crate" :: (path ++ rest)⟩ =
      some (s.walk (s.lookupWithin resolutionLimit) (s.localSymbol path) rest) := by
  have hitems : ∀ n, n < path.length → [] ++ path.take (n + 1) ∈ s.items := h
  have hwalk : s.walk (s.lookupWithin resolutionLimit) (s.localSymbol []) (path ++ rest) =
      s.walk (s.lookupWithin resolutionLimit) (s.localSymbol path) rest := walk_append_items hitems rest
  unfold resolve resolveWithin
  rw [if_pos rfl]
  exact congrArg some hwalk

theorem resolve_self_walk (hrest : rest.head? ≠ some "super") (module : List String) :
    s.resolve module ⟨false, "self" :: rest⟩ =
      some (s.walk (s.lookupWithin resolutionLimit) (s.localSymbol module) rest) := by
  unfold resolve resolveWithin
  dsimp only
  rw [if_neg (by decide), if_pos rfl, if_neg hrest]

/-! ## Going up -/

theorem ascend_of_head? (hrest : rest.head? ≠ some "super") (module : List String) :
    ascend module rest = some (module, rest) := by
  unfold ascend
  split
  · exact absurd rfl hrest
  · rfl

/-- Each `super` goes up one module, as long as there is one. -/
theorem ascend_replicate (hrest : rest.head? ≠ some "super") (k : Nat) (module : List String) :
    ascend module (List.replicate k "super" ++ rest) =
      if k ≤ module.length then some (module.rdrop k, rest) else none := by
  induction k generalizing module with
  | zero => simpa using ascend_of_head? hrest module
  | succ k ih =>
    rw [List.replicate_succ, List.cons_append, ascend]
    rcases List.eq_nil_or_concat module with rfl | ⟨outer, n, rfl⟩
    · rfl
    · have hfull : (outer.concat n).isEmpty = false := by simp
      rw [hfull, if_neg (by decide), List.concat_eq_append, List.dropLast_concat, ih,
        List.length_append, List.length_singleton, List.rdrop_concat_succ]
      simp only [Nat.add_le_add_iff_right]

theorem resolve_super (hrest : rest.head? ≠ some "super") (hk : 1 ≤ k) (module : List String) :
    s.resolve module ⟨false, List.replicate k "super" ++ rest⟩ =
      if k ≤ module.length then
        some (s.walk (s.lookupWithin resolutionLimit) (s.localSymbol (module.rdrop k)) rest)
      else none := by
  have hascend := ascend_replicate hrest k module
  obtain ⟨k, rfl⟩ := Nat.exists_eq_add_of_le' hk
  rw [List.replicate_succ, List.cons_append] at hascend ⊢
  unfold resolve resolveWithin
  dsimp only
  rw [if_neg (by decide), if_neg (by decide), if_pos rfl, hascend]
  by_cases hle : k + 1 ≤ module.length
  · rw [if_pos hle, if_pos hle]
  · rw [if_neg hle, if_neg hle]

end Scope

namespace Crate.Built

variable {c : Crate} {module path rest : List String}

/-- The absolute path of an item that is declared at the level of modules, or of a unit's module or one
around it, names just that, whatever is imported and from which module it is looked at. -/
theorem resolve_declared (h : c.Built) (hpath : c.Declares path ∨ ∃ u ∈ c.units, path <+: u.module)
    (module : List String) :
    c.scope.resolve module ⟨false, "crate" :: path⟩ = some ⟨c.name, path⟩ := by
  refine Scope.resolve_crate ?_ module
  rcases hpath with hpath | ⟨u, hu, hprefix⟩
  · exact h.isModule_of_declares hpath
  · exact (isModule_unit hu).initial hprefix

/-- A struct beside imports of its own name, in modules that import each other. -/
theorem resolve_declared_imported : ∃ c : Crate, c.Built ∧ c.Declares ["m", "X"] ∧
    c.scope.resolve ["n"] ⟨false, ["crate", "m", "X"]⟩ = some ⟨"demo", ["m", "X"]⟩ := by
  have hread : ((((⟨"demo", []⟩ : Crate).add "lib.rs" [] "use n::Y as m;use n::*;").bind
      (·.add "m.rs" ["m"] "pub use super::n::{Y as X,*};pub struct X;")).bind
      (·.add "n.rs" ["n"] "pub use super::m::{X as Y,*};")).toOption.map (fun c =>
        (c.name, c.structs.map DeclaredStruct.path)) = some ("demo", [["m", "X"]]) := by decide +kernel
  obtain ⟨c, hadd, hc⟩ := Option.map_eq_some_iff.1 hread
  obtain ⟨hname, hpaths⟩ := Prod.mk.inj hc
  obtain ⟨b, hb, hbc⟩ := bind_ok (toOption_eq_some hadd)
  obtain ⟨a, ha, hab⟩ := bind_ok hb
  have hcreate : Crate.create "demo" = .ok ⟨"demo", []⟩ := rfl
  have hbuilt : c.Built := .add (.add (.add (.create hcreate) ha) hab) hbc
  obtain ⟨d, hd, hpath⟩ := List.mem_map.1 (hpaths ▸ List.mem_singleton_self ["m", "X"])
  have hdeclared : c.Declares ["m", "X"] := hpath ▸ declares_of_structs hd
  have hresolve := hbuilt.resolve_declared (.inl hdeclared) ["n"]
  exact ⟨c, hbuilt, hdeclared, hname ▸ hresolve⟩

/-- In a module of the crate, a path that begins with some `super` names what the absolute path does in
which they are replaced by the module they go up to, and nothing if there are more of them than modules;
a path from `self` on names what the absolute path does that begins with the module. -/
theorem resolve_relative (h : c.Built) (hmodule : c.HasModule module) (hrest : rest.head? ≠ some "super") :
    (∀ k, 1 ≤ k → k ≤ module.length →
      c.scope.resolve module ⟨false, List.replicate k "super" ++ rest⟩ =
        c.scope.resolve module ⟨false, "crate" :: (module.rdrop k ++ rest)⟩) ∧
    (∀ k, module.length < k →
      c.scope.resolve module ⟨false, List.replicate k "super" ++ rest⟩ = none) ∧
    c.scope.resolve module ⟨false, "self" :: rest⟩ =
      c.scope.resolve module ⟨false, "crate" :: (module ++ rest)⟩ := by
  have hitems := h.isModule_of_hasModule hmodule
  refine ⟨fun k hk hle => ?_, fun k hlt => ?_, ?_⟩
  · have hbase : c.scope.IsModule (module.rdrop k) := hitems.initial (List.take_prefix _ module)
    rw [Scope.resolve_super hrest hk, if_pos hle, Scope.resolve_crate_append hbase]
  · rw [Scope.resolve_super hrest (by omega), if_neg (by omega)]
  · rw [Scope.resolve_self_walk hrest, Scope.resolve_crate_append hitems]

/-- From a module of a file in a directory, one up, above the crate, and from itself. -/
theorem resolve_relative_nested : ∃ c : Crate, c.Built ∧ c.HasModule ["a", "b"] ∧
    c.scope.resolve ["a", "b"] ⟨false, ["super", "X"]⟩ =
      c.scope.resolve ["a", "b"] ⟨false, ["crate", "a", "X"]⟩ ∧
    c.scope.resolve ["a", "b"] ⟨false, ["super", "super", "super", "X"]⟩ = none ∧
    c.scope.resolve ["a", "b"] ⟨false, ["self", "X"]⟩ =
      c.scope.resolve ["a", "b"] ⟨false, ["crate", "a", "b", "X"]⟩ := by
  have hread : ((⟨"demo", []⟩ : Crate).add "a/b.rs" ["a", "b"] "pub use super::X;").toOption.map
      (fun c => c.units.map (·.module)) = some [["a", "b"]] := by decide +kernel
  obtain ⟨c, hadd, hmodules⟩ := Option.map_eq_some_iff.1 hread
  have hcreate : Crate.create "demo" = .ok ⟨"demo", []⟩ := rfl
  have hbuilt : c.Built := .add (.create hcreate) (toOption_eq_some hadd)
  obtain ⟨u, hu, hunit⟩ := List.mem_map.1 (hmodules ▸ List.mem_singleton_self ["a", "b"])
  have hmodule : c.HasModule ["a", "b"] := ⟨u, hu, .inl hunit⟩
  have hrest : ["X"].head? ≠ some "super" := by decide
  obtain ⟨hsuper, habove, hself⟩ := hbuilt.resolve_relative hmodule hrest
  exact ⟨c, hbuilt, hmodule, hsuper 1 (by decide) (by decide), habove 3 (by decide), hself⟩

end Crate.Built

end DisplayGen
