import DisplayGen.Proofs.Resolution.Question

/-!
# Bare paths and paths from `self`

A bare path follows the import under its first name before it looks for an item of that name, a path from
`self` looks for the item first. So the two name the same thing unless a module both declares and imports
the name (`Scope.resolve_self`). One more difference is that a bare path comes to the import one level
earlier; this shows only where the limit is reached.
-/

namespace DisplayGen

open Source

namespace Scope

/-- The module binds the name: it declares it, imports it, or has it from a glob. -/
def Binds (s : Scope) (module : List String) (n : String) : Prop :=
  (s.lookupWithin resolutionLimit module n).isSome

/-- What further segments name below what a search has found. -/
def walkFound (s : Scope) (found : Option Symbol) (rest : List String) : Option Symbol :=
  found.map fun start => s.walk (s.lookupWithin resolutionLimit) start rest

variable {s : Scope} {module : List String} {n : String}

theorem resolve_eq_outcome (written : WrittenPath) : s.resolve module written =
    (s.pathInquiry module written).outcome (s.answerWithin resolutionLimit) :=
  resolveWithin_succ resolutionLimit module written

theorem resolve_bare_imported {target : WrittenPath} (hn : n ∉ ["crate", "self", "super"])
    (himported : importNamed n (s.importsOf module) = some target) (rest : List String) :
    s.resolve module ⟨false, n :: rest⟩ =
      s.walkFound (s.resolveWithin resolutionLimit module target) rest := by
  simp only [List.mem_cons, List.not_mem_nil, or_false, not_or] at hn
  rw [resolve_eq_outcome]
  unfold pathInquiry
  dsimp only
  rw [if_neg hn.1, if_neg hn.2.1, if_neg hn.2.2, himported]
  dsimp only [Inquiry.outcome, answerWithin]
  cases s.resolveWithin resolutionLimit module target with
  | none => rfl
  | some found => exact outcome_walkInquiry _ found rest

theorem resolve_bare_bound (hn : n ∉ ["crate", "self", "super"]) (hbinds : s.Binds module n)
    (himported : importNamed n (s.importsOf module) = none) (rest : List String) :
    s.resolve module ⟨false, n :: rest⟩ =
      s.walkFound (s.lookupWithin resolutionLimit module n) rest := by
  obtain ⟨found, hfound⟩ := Option.isSome_iff_exists.1 hbinds
  simp only [List.mem_cons, List.not_mem_nil, or_false, not_or] at hn
  rw [resolve_eq_outcome]
  unfold pathInquiry
  dsimp only
  rw [if_neg hn.1, if_neg hn.2.1, if_neg hn.2.2, himported]
  dsimp only [Inquiry.outcome, answerWithin]
  rw [hfound]
  exact outcome_walkInquiry _ found rest

theorem resolve_self_bound (hn : n ∉ ["crate", "self", "super"]) (hbinds : s.Binds module n)
    (rest : List String) : s.resolve module ⟨false, "self" :: n :: rest⟩ =
      s.walkFound (s.lookupWithin resolutionLimit module n) rest := by
  obtain ⟨found, hfound⟩ := Option.isSome_iff_exists.1 hbinds
  simp only [List.mem_cons, List.not_mem_nil, or_false, not_or] at hn
  have hsuper : (n :: rest).head? ≠ some "super" := fun h => hn.2.2 (Option.some.inj h)
  have hcrate : (s.localSymbol module).crate = s.crateName := rfl
  have hpath : (s.localSymbol module).path = module := rfl
  rw [resolve_eq_outcome]
  unfold pathInquiry
  dsimp only
  rw [if_neg (by decide), if_pos rfl, if_neg hsuper, walkInquiry, if_pos hcrate, hpath]
  dsimp only [Inquiry.outcome, answerWithin]
  rw [hfound]
  exact outcome_walkInquiry _ found rest

theorem lookupWithin_import {fuel : Nat} {target : WrittenPath} (hundeclared : module ++ [n] ∉ s.items)
    (himported : importNamed n (s.importsOf module) = some target) :
    s.lookupWithin (fuel + 1) module n = s.resolveWithin fuel module target := by
  unfold lookupWithin
  rw [if_neg (by rwa [List.contains_iff_mem]), himported]

/-- A bare path whose first name its module binds names the same as the path from `self`, if the module
does not import that name by itself, or imports it without declaring it and what the import names does not
lie as deep as the limit. If the module both declares and imports the name, the bare path goes on from what
the import names, and the path from `self` from the item. -/
theorem resolve_self (hn : n ∉ ["crate", "self", "super"]) (hbinds : s.Binds module n)
    (rest : List String) :
    (importNamed n (s.importsOf module) = none →
      s.resolve module ⟨false, n :: rest⟩ = s.resolve module ⟨false, "self" :: n :: rest⟩) ∧
    ∀ target, importNamed n (s.importsOf module) = some target →
      (module ++ [n] ∉ s.items → ∀ r, s.answer? (resolutionLimit - 1) (.path module target) = some r →
        s.resolve module ⟨false, n :: rest⟩ = s.resolve module ⟨false, "self" :: n :: rest⟩) ∧
      (module ++ [n] ∈ s.items →
        s.resolve module ⟨false, n :: rest⟩ =
          s.walkFound (s.resolveWithin resolutionLimit module target) rest ∧
        s.resolve module ⟨false, "self" :: n :: rest⟩ =
          s.walkFound (some (s.localSymbol (module ++ [n]))) rest) := by
  have hself := resolve_self_bound hn hbinds rest
  refine ⟨fun hnone => ?_, fun target himported => ⟨fun hundeclared r hr => ?_, fun hitem => ⟨?_, ?_⟩⟩⟩
  · rw [resolve_bare_bound hn hbinds hnone, hself]
  · have hdeep : s.resolveWithin resolutionLimit module target = r :=
      answerWithin_of_answer? (answer?_succ_of hr)
    have hless : s.resolveWithin (resolutionLimit - 1) module target = r := answerWithin_of_answer? hr
    have hlookup : s.lookupWithin resolutionLimit module n = r :=
      (lookupWithin_import hundeclared himported).trans hless
    rw [resolve_bare_imported hn himported, hself, hdeep, hlookup]
  · exact resolve_bare_imported hn himported rest
  · have hlookup : s.lookupWithin resolutionLimit module n = some (s.localSymbol (module ++ [n])) :=
      lookupWithin_item hitem
    rw [hself, hlookup]

/-- The module of a marker that is declared beside an imported attribute of its name. -/
def markerBesideAttribute : Scope where
  crateName := "demo"
  items := [["strgen"], ["strgen", "M"]]
  structs := []
  imports := [(["strgen"], .named "M" ⟨false, ["attributes", "M"]⟩)]

theorem resolve_self_marker :
    markerBesideAttribute.resolve ["strgen"] ⟨false, ["M"]⟩ = some ⟨"attributes", ["M"]⟩ ∧
    markerBesideAttribute.resolve ["strgen"] ⟨false, ["self", "M"]⟩ = some ⟨"demo", ["strgen", "M"]⟩ := by
  have hn : "M" ∉ ["crate", "self", "super"] := by decide
  have hbinds : markerBesideAttribute.Binds ["strgen"] "M" := rfl
  obtain ⟨hbare, hself⟩ := ((resolve_self hn hbinds []).2 _ rfl).2 (by decide)
  exact ⟨hbare, hself⟩

end Scope

end DisplayGen
