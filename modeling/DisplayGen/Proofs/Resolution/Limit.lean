import DisplayGen.Proofs.Resolution.Acyclic

/-!
# What the limit cuts

The limit counts levels of questions, not imports that come round again. It therefore cuts long searches
as well as endless ones, and a name that lies too deep is taken for one that nothing binds.

* `Scope.resolve_levels`: without cycles the unlimited search has one answer, after a number of levels
  that depends on the question alone; resolution gives that answer if the limit has as many levels.
* The same statement for a name that one module after another passes on: the limit is reached behind the
  eighth of them.
-/

namespace DisplayGen

open Source

namespace Scope

/-- The module and those that enclose it can be named. -/
def IsModule (s : Scope) (module : List String) : Prop :=
  ∀ n, n < module.length → module.take (n + 1) ∈ s.items

/-- From one module to another a name is passed on the given number of times: each module in between
declares nothing of the name, but imports it by its absolute path in the next one. -/
inductive PassesOn (s : Scope) (n : String) : Nat → List String → List String → Prop where
  | here (module : List String) (hmodule : s.IsModule module) : PassesOn s n 0 module module
  | on {times : Nat} {module next last : List String} (hmodule : s.IsModule module)
    (hundeclared : module ++ [n] ∉ s.items)
    (himported : importNamed n (s.importsOf module) = some ⟨false, "crate" :: (next ++ [n])⟩)
    (hnext : PassesOn s n times next last) : PassesOn s n (times + 1) module last

/-- The absolute path of a name in a module. -/
def absolutePath (module : List String) (n : String) : WrittenPath := ⟨false, "crate" :: (module ++ [n])⟩

/-- The unlimited search for an answer takes exactly the given number of levels. -/
def Takes (s : Scope) (q : Question) (levels : Nat) (r : Option Symbol) : Prop :=
  ∀ k, s.answer? k q = if levels ≤ k then some r else none

variable {s : Scope} {n : String} {k : Nat} {first last module : List String} {r : Option Symbol}

theorem Answers.takes {q : Question} (h : s.Answers q r) : ∃ levels, s.Takes q levels r := by
  classical
  refine ⟨Nat.find h, fun k => ?_⟩
  split
  · rename_i hle
    exact answer?_mono hle (Nat.find_spec h)
  · rename_i hlt
    cases hk : s.answer? k q with
    | none => rfl
    | some r' =>
      have hr : r = r' := h.unique ⟨k, hk⟩
      exact absurd (Nat.find_min' h (by rw [hk, hr])) hlt

/-! ## Absolute paths -/

/-- Items are answered for. -/
def AnswersItems (s : Scope) (answer? : Question → Option (Option Symbol)) : Prop :=
  ∀ module n, module ++ [n] ∈ s.items →
    answer? (.name module n) = some (some (s.localSymbol (module ++ [n])))

theorem nameInquiry_item (h : module ++ [n] ∈ s.items) :
    s.nameInquiry module n = .answered (some (s.localSymbol (module ++ [n]))) :=
  if_pos (List.contains_iff_mem.2 h)

theorem nameInquiry_import {target : WrittenPath} (hundeclared : module ++ [n] ∉ s.items)
    (himported : importNamed n (s.importsOf module) = some target) :
    s.nameInquiry module n = .asking (.path module target) .answered := by
  unfold nameInquiry
  rw [if_neg (by rwa [List.contains_iff_mem]), himported]

theorem answersItems_answer? (s : Scope) (levels : Nat) : s.AnswersItems (s.answer? (levels + 1)) := by
  intro module n h
  unfold answer? inquiry
  dsimp only
  rw [nameInquiry_item h]
  rfl

theorem answersItems_answerWithin (s : Scope) (fuel : Nat) :
    s.AnswersItems fun q => some (s.answerWithin (fuel + 1) q) := by
  intro module n h
  dsimp only
  rw [answerWithin_succ]
  unfold inquiry
  dsimp only
  rw [nameInquiry_item h]
  rfl

section

variable {answer? : Question → Option (Option Symbol)} (hitems : s.AnswersItems answer?)

include hitems

theorem outcome?_walkInquiry_items {before rest : List String} (more : List String)
    (h : ∀ n, n < rest.length → before ++ rest.take (n + 1) ∈ s.items) :
    (s.walkInquiry (s.localSymbol before) (rest ++ more)).outcome? answer? =
      (s.walkInquiry (s.localSymbol (before ++ rest)) more).outcome? answer? := by
  induction rest generalizing before with
  | nil => rw [List.nil_append, List.append_nil]
  | cons n rest ih =>
    obtain ⟨hitem, hrest⟩ := items_cons h
    have hcrate : (s.localSymbol before).crate = s.crateName := rfl
    have hpath : (s.localSymbol before).path = before := rfl
    rw [List.cons_append, walkInquiry, if_pos hcrate, hpath, Inquiry.outcome?, hitems before n hitem]
    dsimp only
    rw [ih hrest, List.append_assoc, List.singleton_append]

/-- An absolute path along a module names what its last segment refers to there, and itself if that is
nothing. -/
theorem outcome?_absolutePath (h : s.IsModule module) {m : List String} {found : Option Symbol}
    (hfound : answer? (.name module n) = some found) :
    (s.inquiry (.path m (absolutePath module n))).outcome? answer? =
      some (some (found.getD (s.localSymbol (module ++ [n])))) := by
  have hmodule : ∀ k, k < module.length → [] ++ module.take (k + 1) ∈ s.items := h
  have hwalk := outcome?_walkInquiry_items hitems [n] hmodule
  have hcrate : (s.localSymbol module).crate = s.crateName := rfl
  have hpath : (s.localSymbol module).path = module := rfl
  have hinquiry : s.inquiry (.path m (absolutePath module n)) =
      s.walkInquiry (s.localSymbol []) (module ++ [n]) := by
    unfold inquiry absolutePath pathInquiry
    exact if_pos rfl
  rw [hinquiry]
  refine hwalk.trans ?_
  rw [List.nil_append, walkInquiry, if_pos hcrate, hpath, Inquiry.outcome?, hfound]
  cases found <;> rfl

end

theorem outcome?_some (f : Question → Option Symbol) (i : Inquiry) :
    i.outcome? (fun q => some (f q)) = some (i.outcome f) := by
  induction i with
  | answered found => rfl
  | asking q next ih => exact ih (f q)

theorem answerWithin_absolutePath (h : s.IsModule module) (fuel : Nat) (m : List String) :
    s.answerWithin (fuel + 1) (.path m (absolutePath module n)) =
      some ((s.answerWithin fuel (.name module n)).getD (s.localSymbol (module ++ [n]))) := by
  cases fuel with
  | zero =>
    -- without a level left, the whole path is kept as written
    have hkept : ∀ rest, s.walk (s.lookupWithin 0) (s.localSymbol []) rest = s.localSymbol rest := by
      intro rest
      cases rest with
      | nil => rfl
      | cons first rest => exact if_pos rfl
    exact congrArg some (hkept (module ++ [n]))
  | succ fuel =>
    have houtcome := outcome?_absolutePath (answersItems_answerWithin s fuel) h (n := n) (m := m) rfl
    rw [outcome?_some] at houtcome
    rw [answerWithin_succ]
    exact Option.some.inj houtcome

/-! ## Names that are passed on -/

/-- Each time that a name is passed on takes two levels. -/
theorem PassesOn.answer? (h : s.PassesOn n k first last) (hlast : last ++ [n] ∈ s.items)
    (m : List String) : s.answer? (2 * k + 2) (.path m (absolutePath first n)) =
      some (some (s.localSymbol (last ++ [n]))) := by
  induction h generalizing m with
  | here module hmodule =>
    exact outcome?_absolutePath (answersItems_answer? s 0) hmodule (answersItems_answer? s 0 _ _ hlast)
  | @on times module next last hmodule hundeclared himported _ ih =>
    have hname : s.answer? (2 * times + 3) (.name module n) =
        some (some (s.localSymbol (last ++ [n]))) := by
      have hnext := ih hlast module
      unfold absolutePath at hnext
      unfold Scope.answer? inquiry
      dsimp only
      rw [nameInquiry_import hundeclared himported, Inquiry.outcome?, hnext]
      rfl
    exact outcome?_absolutePath (answersItems_answer? s _) hmodule hname

/-- As far as the limit goes, too. -/
theorem PassesOn.answerWithin (h : s.PassesOn n k first last) (fuel : Nat) (m : List String) :
    s.answerWithin (2 * k + (fuel + 1)) (.path m (absolutePath first n)) =
      some ((s.answerWithin fuel (.name last n)).getD (s.localSymbol (last ++ [n]))) := by
  induction h generalizing m with
  | here module hmodule =>
    rw [Nat.mul_zero, Nat.zero_add]
    exact answerWithin_absolutePath hmodule fuel m
  | @on times module next last hmodule hundeclared himported _ ih =>
    have hlevels : 2 * (times + 1) + (fuel + 1) = 2 * times + (fuel + 1) + 1 + 1 := by omega
    have hnext := ih module
    unfold absolutePath at hnext
    rw [hlevels, answerWithin_absolutePath hmodule, answerWithin_succ s _ (.name module n)]
    unfold inquiry
    dsimp only
    rw [nameInquiry_import hundeclared himported, Inquiry.outcome, hnext]
    rfl

/-- A name is passed on part of the way. -/
theorem PassesOn.split {j : Nat} (h : s.PassesOn n k first last) (hj : j ≤ k) :
    ∃ between, s.PassesOn n j first between ∧ s.PassesOn n (k - j) between last := by
  induction h generalizing j with
  | here module hmodule =>
    obtain rfl : j = 0 := Nat.le_zero.1 hj
    exact ⟨module, .here module hmodule, .here module hmodule⟩
  | @on times module next last hmodule hundeclared himported hnext ih =>
    cases j with
    | zero => exact ⟨module, .here module hmodule, .on hmodule hundeclared himported hnext⟩
    | succ j =>
      obtain ⟨between, hbefore, hbehind⟩ := ih (Nat.le_of_succ_le_succ hj)
      refine ⟨between, .on hmodule hundeclared himported hbefore, ?_⟩
      rwa [Nat.add_sub_add_right]

/-- An absolute path leads along the modules that pass the name on, but not behind more of them than half
the limit. -/
theorem PassesOn.resolve (h : s.PassesOn n k first last) (hlast : last ++ [n] ∈ s.items)
    (m : List String) : ∃ reached, s.PassesOn n (k - min k (resolutionLimit / 2)) reached last ∧
      s.resolve m (absolutePath first n) = some (s.localSymbol (reached ++ [n])) := by
  by_cases hk : k < resolutionLimit / 2
  · have hmin : k - min k (resolutionLimit / 2) = 0 := by omega
    obtain ⟨fuel, hfuel⟩ : ∃ fuel, resolutionLimit + 1 = 2 * k + (fuel + 1 + 1) :=
      ⟨resolutionLimit - 2 * k - 1, by omega⟩
    have hanswer := h.answerWithin (fuel + 1) m
    have hitem := Option.some.inj (answersItems_answerWithin s fuel last n hlast)
    obtain ⟨between, hbefore, hbehind⟩ := h.split (Nat.le_refl k)
    rw [Nat.sub_self] at hbehind
    rw [hitem, ← hfuel] at hanswer
    cases hbehind with
    | here _ hmodule => exact ⟨last, by rw [hmin]; exact .here last hmodule, hanswer⟩
  · have hmin : min k (resolutionLimit / 2) = resolutionLimit / 2 := by omega
    obtain ⟨between, hbefore, hbehind⟩ := h.split (j := resolutionLimit / 2) (by omega)
    exact ⟨between, by rw [hmin]; exact hbehind, hbefore.answerWithin 0 m⟩

/-- Without cycles the unlimited search has one answer, after a number of levels that depends on the
question alone, and resolution gives it if the limit has as many. Where modules pass a name on, the
unlimited search finds the item behind the last of them, and resolution does if and only if they are no
more than half as many as the limit. -/
theorem resolve_levels (hacyclic : s.Acyclic) :
    (∀ module written, ∃ levels r, s.Takes (.path module written) levels r ∧
      (levels ≤ resolutionLimit + 1 → s.resolve module written = r)) ∧
    ∀ n k first last, s.PassesOn n k first last → last ++ [n] ∈ s.items → ∀ module,
      s.Answers (.path module (absolutePath first n)) (some (s.localSymbol (last ++ [n]))) ∧
      (s.resolve module (absolutePath first n) = some (s.localSymbol (last ++ [n])) ↔
        2 * k ≤ resolutionLimit) := by
  constructor
  · intro module written
    obtain ⟨r, hr⟩ := hacyclic.answers (.path module written)
    obtain ⟨levels, hlevels⟩ := hr.takes
    refine ⟨levels, r, hlevels, fun hle => resolve_of_answer? ?_⟩
    rw [hlevels, if_pos hle]
  · intro n k first last h hlast module
    refine ⟨⟨_, h.answer? hlast module⟩, ?_⟩
    obtain ⟨reached, hbehind, hresolve⟩ := h.resolve hlast module
    constructor
    · intro hlocal
      rw [hlocal] at hresolve
      have hreached : last ++ [n] = reached ++ [n] := congrArg Symbol.path (Option.some.inj hresolve)
      by_contra hlong
      have hmany : k - min k (resolutionLimit / 2) ≠ 0 := by omega
      generalize k - min k (resolutionLimit / 2) = rest at hbehind hmany
      cases hbehind with
      | here => exact hmany rfl
      | on _ hundeclared => exact hundeclared (hreached ▸ hlast)
    · intro hshort
      have hnone : k - min k (resolutionLimit / 2) = 0 := by omega
      rw [hnone] at hbehind
      cases hbehind with
      | here => exact hresolve

/-- A name that one module passes on. -/
def oneRelay : Scope where
  crateName := "demo"
  items := [["a"], ["b"], ["b", "M"]]
  structs := []
  imports := [(["a"], .named "M" ⟨false, ["crate", "b", "M"]⟩)]

theorem resolve_levels_oneRelay : oneRelay.Acyclic ∧
    oneRelay.resolve [] (absolutePath ["a"] "M") = some ⟨"demo", ["b", "M"]⟩ := by
  have hacyclic : oneRelay.Acyclic := by
    refine acyclic_of_named (fun module => ?_) ?_
    · unfold importsOf oneRelay
      by_cases hmodule : ["a"] = module
      · subst hmodule
        rfl
      · simp [hmodule, globBases]
    · intro d hd
      rw [List.mem_singleton.1 hd]
      exact ⟨some ⟨"demo", ["b", "M"]⟩, 2, by decide⟩
  have hb : oneRelay.IsModule ["b"] := by
    intro n hn
    obtain rfl : n = 0 := by simpa using hn
    decide
  have ha : oneRelay.IsModule ["a"] := by
    intro n hn
    obtain rfl : n = 0 := by simpa using hn
    decide
  have hpasses : oneRelay.PassesOn "M" 1 ["a"] ["b"] :=
    .on ha (by decide) (by decide) (.here ["b"] hb)
  exact ⟨hacyclic, (((resolve_levels hacyclic).2 "M" 1 ["a"] ["b"] hpasses (by decide) []).2).2 (by decide)⟩

end Scope

end DisplayGen
