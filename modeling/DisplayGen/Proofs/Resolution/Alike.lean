import DisplayGen.Resolution.Scope

/-!
# Scopes that resolve alike

Resolution asks a scope for the imports of a module, in their order, and whether something can be named,
but not how often it is declared, nor in which order modules come. So scopes that agree on this resolve all
paths alike (`Scope.BindsAlike.resolve`), and in particular a scope that only repeats what another one has
resolves them like it (`Scope.Alike.resolve`).
-/

namespace DisplayGen

open Source

/-- The scopes are of one crate, the same things can be named in both, and each module has the same imports
in both. -/
structure Scope.BindsAlike (s s' : Scope) : Prop where
  crateName : s'.crateName = s.crateName
  items : ∀ path, path ∈ s'.items ↔ path ∈ s.items
  importsOf : ∀ module, s'.importsOf module = s.importsOf module

/-- The scopes are of one crate and have the same structs and imports; the same things can be named in
both. -/
structure Scope.Alike (s s' : Scope) : Prop where
  crateName : s'.crateName = s.crateName
  items : ∀ path, path ∈ s'.items ↔ path ∈ s.items
  structs : s'.structs = s.structs
  imports : s'.imports = s.imports

namespace Scope

variable {s s' : Scope}

namespace BindsAlike

theorem walk (h : s.BindsAlike s') (look : List String → String → Option Symbol) (start : Symbol)
    (path : List String) : s'.walk look start path = s.walk look start path := by
  induction path generalizing start with
  | nil => rfl
  | cons n rest ih =>
    unfold Scope.walk
    rw [h.crateName]
    simp only [ih]

theorem within (h : s.BindsAlike s') (fuel : Nat) :
    (∀ module path, s'.resolveWithin fuel module path = s.resolveWithin fuel module path) ∧
      ∀ module name, s'.lookupWithin fuel module name = s.lookupWithin fuel module name := by
  induction fuel with
  | zero => exact ⟨fun _ _ => by simp only [resolveWithin], fun _ _ => by simp only [lookupWithin]⟩
  | succ fuel ih =>
    obtain ⟨hresolve, hlookup⟩ := ih
    have hlook : s'.lookupWithin fuel = s.lookupWithin fuel :=
      funext fun module => funext fun name => hlookup module name
    have hlocal : ∀ path, s'.localSymbol path = s.localSymbol path := by
      intro path
      unfold localSymbol
      rw [h.crateName]
    constructor
    · rintro module ⟨leading, segments⟩
      cases segments with
      | nil => cases leading <;> simp only [resolveWithin]
      | cons first rest =>
        cases leading with
        | true => simp only [resolveWithin]
        | false => simp only [resolveWithin, hresolve, hlook, hlocal, h.walk, h.importsOf]
    · intro module name
      have hitems : s'.items.contains (module ++ [name]) = s.items.contains (module ++ [name]) := by
        rw [Bool.eq_iff_iff, List.contains_iff_mem, List.contains_iff_mem, h.items]
      simp only [lookupWithin, hitems, hresolve, hlookup, hlocal, h.importsOf, h.crateName]

/-- All paths name the same in both. -/
theorem resolve (h : s.BindsAlike s') (module : List String) (path : WrittenPath) :
    s'.resolve module path = s.resolve module path :=
  (h.within _).1 module path

end BindsAlike

namespace Alike

theorem bindsAlike (h : s.Alike s') : s.BindsAlike s' where
  crateName := h.crateName
  items := h.items
  importsOf module := by
    unfold Scope.importsOf
    rw [h.imports]

/-- All paths name the same in both. -/
theorem resolve (h : s.Alike s') (module : List String) (path : WrittenPath) :
    s'.resolve module path = s.resolve module path :=
  h.bindsAlike.resolve module path

end Alike

end Scope

end DisplayGen
