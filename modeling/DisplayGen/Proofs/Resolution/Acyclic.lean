import DisplayGen.Proofs.Resolution.Question
import Mathlib.Data.Set.Card
import Mathlib.Data.Set.Finite.Lattice
import Mathlib.Logic.Relation

/-!
# Imports without cycles

A question leads to those that are asked to answer it (`Scope.Asks`). Only imports lead from one path to
another or from one module to another, so imports that form no cycle are what `Scope.Acyclic` says: no
question leads back to itself. This is the case exactly if every question has an answer that needs no
limit (`Scope.acyclic_iff`): there are finitely many imports, so an endless search would come through one
of them twice.
-/

namespace DisplayGen

open Source Relation

/-! ## Chains that come past finitely many landmarks -/

section

variable {α : Type} {R : α → α → Prop} {F : Set α}

/-- Without cycles, all chains end if all do that come past no landmark, and these are finitely many. -/
theorem acc_of_landmarks (hacyclic : ∀ a, ¬ TransGen R a a) (hF : F.Finite)
    (h : ∀ a, Acc (fun b a => R a b ∧ b ∉ F) a) (a : α) : Acc (fun b a => R a b) a := by
  have hfinite : ∀ a, {b ∈ F | TransGen R a b}.Finite := fun a => hF.subset (Set.sep_subset _ _)
  -- the landmarks ahead become fewer at each of them
  have hkey : ∀ n a, {b ∈ F | TransGen R a b}.ncard = n → Acc (fun b a => R a b) a := by
    intro n
    induction n using Nat.strong_induction_on with
    | _ n ih =>
      intro a
      induction h a with
      | intro a _ iha =>
        intro hn
        refine ⟨a, fun b hab => ?_⟩
        have hahead : {c ∈ F | TransGen R b c} ⊆ {c ∈ F | TransGen R a c} :=
          fun c hc => ⟨hc.1, .head hab hc.2⟩
        by_cases hb : b ∈ F
        · have hfewer : {c ∈ F | TransGen R b c} ⊂ {c ∈ F | TransGen R a c} :=
            ⟨hahead, fun hback => hacyclic b (hback ⟨hb, .single hab⟩).2⟩
          exact ih _ (hn ▸ Set.ncard_lt_ncard hfewer (hfinite a)) b rfl
        · by_cases hsame : {c ∈ F | TransGen R b c}.ncard = n
          · exact iha b ⟨hab, hb⟩ hsame
          · have hle := Set.ncard_le_ncard hahead (hfinite a)
            exact ih _ (by omega) b rfl
  exact hkey _ a rfl

end

/-! ## Questions that lead to others -/

namespace Inquiry

/-- The search comes to ask the question, with answers to those before it. -/
inductive Asks (answers : Question → Option Symbol → Prop) : Inquiry → Question → Prop where
  | first (q : Question) (next : Option Symbol → Inquiry) : Asks answers (asking q next) q
  | later {q q' : Question} {next : Option Symbol → Inquiry} {found : Option Symbol}
    (h : answers q found) (hnext : Asks answers (next found) q') : Asks answers (asking q next) q'

theorem not_asks_answered {answers : Question → Option Symbol → Prop} {found : Option Symbol}
    {q : Question} : ¬ (answered found).Asks answers q := by
  intro h
  cases h

end Inquiry

namespace Scope

/-- To answer the first question, the second one is asked. -/
def Asks (s : Scope) (q q' : Question) : Prop := (s.inquiry q).Asks s.Answers q'

/-- No question leads back to itself: the imports form no cycle. -/
def Acyclic (s : Scope) : Prop := ∀ q, ¬ TransGen s.Asks q q

variable {s : Scope} {module : List String} {n : String} {q q' : Question} {r : Option Symbol}

theorem import_mem {m : Import} (h : m ∈ s.importsOf module) : (module, m) ∈ s.imports := by
  obtain ⟨d, hd, rfl⟩ := List.mem_map.1 h
  obtain ⟨hmem, hmodule⟩ := List.mem_filter.1 hd
  rw [← of_decide_eq_true hmodule]
  exact hmem

theorem asks_walkInquiry {start : Symbol} {rest : List String}
    (h : (s.walkInquiry start rest).Asks s.Answers q) : ∃ module n, q = .name module n := by
  induction rest generalizing start with
  | nil => exact absurd h Inquiry.not_asks_answered
  | cons n rest ih =>
    unfold walkInquiry at h
    split at h
    · cases h with
      | first => exact ⟨_, _, rfl⟩
      | @later _ _ _ found _ hnext =>
        cases found with
        | some next => exact ih hnext
        | none => exact absurd hnext Inquiry.not_asks_answered
    · exact absurd h Inquiry.not_asks_answered

/-- What is asked about a path: what the rest of it names, what an import names, or about names. -/
theorem asks_path {written : WrittenPath} (h : s.Asks (.path module written) q) :
    (∃ rest, q = .path module rest ∧ rest.segments.length < written.segments.length) ∨
    (∃ m ∈ s.importsOf module, q = .path module m.path) ∨ ∃ module n, q = .name module n := by
  unfold Asks inquiry at h
  dsimp only at h
  unfold pathInquiry at h
  split at h
  · exact absurd h Inquiry.not_asks_answered
  · exact absurd h Inquiry.not_asks_answered
  · split at h
    · exact .inr (.inr (asks_walkInquiry h))
    split at h
    · split at h
      · cases h with
        | first => exact .inl ⟨_, rfl, Nat.lt_succ_self _⟩
        | later _ hnext => exact absurd hnext Inquiry.not_asks_answered
      · exact .inr (.inr (asks_walkInquiry h))
    split at h
    · split at h
      · exact .inr (.inr (asks_walkInquiry h))
      · exact absurd h Inquiry.not_asks_answered
    split at h
    · rename_i target htarget
      obtain ⟨m, hm, rfl⟩ := importNamed_mem htarget
      cases h with
      | first => exact .inr (.inl ⟨m, hm, rfl⟩)
      | @later _ _ _ found _ hnext =>
        cases found with
        | some found => exact .inr (.inr (asks_walkInquiry hnext))
        | none => exact absurd hnext Inquiry.not_asks_answered
    · cases h with
      | first => exact .inr (.inr ⟨_, _, rfl⟩)
      | @later _ _ _ found _ hnext =>
        cases found with
        | some found => exact .inr (.inr (asks_walkInquiry hnext))
        | none => exact absurd hnext Inquiry.not_asks_answered

theorem asks_globInquiry {bases : List WrittenPath}
    (h : (s.globInquiry module n bases).Asks s.Answers q) : ∃ base ∈ bases, q = .path module base ∨
      ∃ found, s.Answers (.path module base) (some found) ∧ q = .name found.path n := by
  induction bases with
  | nil => exact absurd h Inquiry.not_asks_answered
  | cons base bases ih =>
    have hrest : (s.globInquiry module n bases).Asks s.Answers q → ∃ b ∈ base :: bases,
        q = .path module b ∨ ∃ found, s.Answers (.path module b) (some found) ∧ q = .name found.path n := by
      intro h
      obtain ⟨b, hb, hq⟩ := ih h
      exact ⟨b, List.mem_cons_of_mem base hb, hq⟩
    unfold globInquiry at h
    cases h with
    | first => exact ⟨base, List.mem_cons_self .., .inl rfl⟩
    | @later _ _ _ found hfound hnext =>
      cases found with
      | none => exact hrest hnext
      | some found =>
        dsimp only at hnext
        split at hnext
        · cases hnext with
          | first => exact ⟨base, List.mem_cons_self .., .inr ⟨found, hfound, rfl⟩⟩
          | @later _ _ _ provided _ hnext =>
            cases provided with
            | none => exact hrest hnext
            | some provided => exact absurd hnext Inquiry.not_asks_answered
        · exact hrest hnext

/-- What is asked about a name in a module: what its imports name, or the same name in a module that one
of them names. -/
theorem asks_name (h : s.Asks (.name module n) q) : ∃ m ∈ s.importsOf module, q = .path module m.path ∨
    ∃ found, s.Answers (.path module m.path) (some found) ∧ q = .name found.path n := by
  unfold Asks inquiry at h
  dsimp only at h
  unfold nameInquiry at h
  split at h
  · exact absurd h Inquiry.not_asks_answered
  split at h
  · rename_i target htarget
    obtain ⟨m, hm, rfl⟩ := importNamed_mem htarget
    cases h with
    | first => exact ⟨m, hm, .inl rfl⟩
    | later _ hnext => exact absurd hnext Inquiry.not_asks_answered
  · obtain ⟨base, hbase, hq⟩ := asks_globInquiry h
    obtain ⟨m, hm, rfl⟩ := globBases_mem hbase
    exact ⟨m, hm, hq⟩

/-! ## Without cycles every question has an answer -/

theorem Answers.of_asked {i : Inquiry} (h : ∀ q, i.Asks s.Answers q → ∃ r, s.Answers q r) :
    ∃ levels r, i.outcome? (s.answer? levels) = some r := by
  induction i with
  | answered found => exact ⟨0, found, rfl⟩
  | asking q next ih =>
    obtain ⟨found, levels, hfound⟩ := h q (.first q next)
    obtain ⟨levels', r, hr⟩ := ih found fun q' hq' => h q' (.later ⟨levels, hfound⟩ hq')
    refine ⟨max levels levels', r, ?_⟩
    unfold Inquiry.outcome?
    rw [answer?_mono (Nat.le_max_left _ _) hfound]
    exact Inquiry.outcome?_mono (fun _ _ => answer?_mono (Nat.le_max_right _ _)) hr

/-- A question has an answer if all questions have one that are asked for it. -/
theorem exists_answer_of_asks (h : ∀ q', s.Asks q q' → ∃ r, s.Answers q' r) : ∃ r, s.Answers q r := by
  obtain ⟨levels, r, hr⟩ := Answers.of_asked h
  exact ⟨r, levels + 1, hr⟩

/-- The questions what an import names. -/
def importQuestions (s : Scope) : Set Question := {q | ∃ d ∈ s.imports, q = .path d.1 d.2.path}

theorem finite_importQuestions (s : Scope) : s.importQuestions.Finite := by
  refine (s.imports.finite_toSet.image fun d => Question.path d.1 d.2.path).subset ?_
  rintro q ⟨d, hd, rfl⟩
  exact ⟨d, hd, rfl⟩

/-- The modules that imports name. -/
def importedModules (s : Scope) : Set (List String) :=
  {module | ∃ d ∈ s.imports, ∃ found, s.Answers (.path d.1 d.2.path) (some found) ∧ module = found.path}

theorem finite_importedModules (s : Scope) : s.importedModules.Finite := by
  have hone : ∀ d : List String × Import, {module | ∃ found,
      s.Answers (.path d.1 d.2.path) (some found) ∧ module = found.path}.Subsingleton := by
    rintro d _ ⟨found, hfound, rfl⟩ _ ⟨found', hfound', rfl⟩
    rw [Option.some.inj (hfound.unique hfound')]
  have hall := Set.Finite.biUnion (List.finite_toSet s.imports) fun d _ => (hone d).finite
  refine hall.subset ?_
  rintro module ⟨d, hd, hmodule⟩
  exact Set.mem_biUnion hd hmodule

/-- One question leads to another that is not what an import names. -/
def AsksAside (s : Scope) (q q' : Question) : Prop := s.Asks q q' ∧ q' ∉ s.importQuestions

theorem AsksAside.not_import {m : Import} (h : s.AsksAside q (.path module m.path))
    (hm : m ∈ s.importsOf module) : False :=
  h.2 ⟨(module, m), import_mem hm, rfl⟩

/-- From name to name the search goes through globs, and these lead to finitely many modules. -/
theorem Acyclic.acc_name (hacyclic : s.Acyclic) (module : List String) (n : String) :
    Acc (fun q' q => s.AsksAside q q') (.name module n) := by
  have hstep : ∀ {module q}, s.AsksAside (.name module n) q →
      ∃ module' ∈ s.importedModules, q = .name module' n := by
    intro module q h
    obtain ⟨m, hm, rfl | ⟨found, hfound, rfl⟩⟩ := asks_name h.1
    · exact (h.not_import hm).elim
    · exact ⟨found.path, ⟨(module, m), import_mem hm, found, hfound, rfl⟩, rfl⟩
  let leads (module module' : List String) : Prop := s.AsksAside (.name module n) (.name module' n)
  have hleads : ∀ module, ¬ TransGen leads module module := by
    intro module hcycle
    refine hacyclic (.name module n) ?_
    exact hcycle.lift (fun module => Question.name module n) fun _ _ h => h.1
  have hmodules : ∀ module, Acc (fun b a => leads a b ∧ b ∉ s.importedModules) module := by
    refine fun module => ⟨module, ?_⟩
    rintro module' ⟨hlead, haside⟩
    obtain ⟨_, hmodule, heq⟩ := hstep hlead
    cases heq
    exact absurd hmodule haside
  induction acc_of_landmarks hleads s.finite_importedModules hmodules module with
  | intro module _ ih =>
    refine ⟨_, fun q hq => ?_⟩
    obtain ⟨module', -, rfl⟩ := hstep hq
    exact ih module' hq

/-- Apart from imports, the search goes on with a shorter path or with names. -/
theorem Acyclic.acc_aside (hacyclic : s.Acyclic) (q : Question) :
    Acc (fun q' q => s.AsksAside q q') q := by
  cases q with
  | name module n => exact hacyclic.acc_name module n
  | path module written =>
    induction hlength : written.segments.length using Nat.strong_induction_on generalizing written with
    | _ length ih =>
      refine ⟨_, fun q hq => ?_⟩
      obtain ⟨rest, rfl, hrest⟩ | ⟨m, hm, rfl⟩ | ⟨module', n, rfl⟩ := asks_path hq.1
      · exact ih _ (hlength ▸ hrest) rest rfl
      · exact (hq.not_import hm).elim
      · exact hacyclic.acc_name module' n

theorem Acyclic.answers (hacyclic : s.Acyclic) (q : Question) : ∃ r, s.Answers q r := by
  induction acc_of_landmarks hacyclic s.finite_importQuestions hacyclic.acc_aside q with
  | intro q _ ih => exact exists_answer_of_asks ih

/-! ## With a cycle some question has none -/

/-- A question that is asked needs fewer levels than the one for which it is. -/
theorem answer?_of_asks {i : Inquiry} {levels : Nat} (h : i.outcome? (s.answer? levels) = some r)
    (hasks : i.Asks s.Answers q) : ∃ r', s.answer? levels q = some r' := by
  induction hasks with
  | first q next =>
    unfold Inquiry.outcome? at h
    split at h
    · rename_i found hfound
      exact ⟨found, hfound⟩
    · cases h
  | @later q q' next found hfound _ ih =>
    unfold Inquiry.outcome? at h
    split at h
    · rename_i found' hfound'
      rw [Answers.unique ⟨levels, hfound'⟩ hfound] at h
      exact ih h
    · cases h

theorem answer?_of_asks_succ {levels : Nat} (h : s.answer? levels q = some r) (hasks : s.Asks q q') :
    ∃ levels' r', levels' < levels ∧ s.answer? levels' q' = some r' := by
  cases levels with
  | zero => cases h
  | succ levels =>
    obtain ⟨r', hr'⟩ := answer?_of_asks h hasks
    exact ⟨levels, r', Nat.lt_succ_self levels, hr'⟩

theorem answer?_of_transGen {levels : Nat} (h : s.answer? levels q = some r)
    (hasks : TransGen s.Asks q q') : ∃ levels' r', levels' < levels ∧ s.answer? levels' q' = some r' := by
  induction hasks with
  | single hasks => exact answer?_of_asks_succ h hasks
  | tail _ hasks ih =>
    obtain ⟨levels₁, r₁, hlt₁, h₁⟩ := ih
    obtain ⟨levels₂, r₂, hlt₂, h₂⟩ := answer?_of_asks_succ h₁ hasks
    exact ⟨levels₂, r₂, hlt₂.trans hlt₁, h₂⟩

/-- A question that leads back to itself has no answer. -/
theorem not_transGen_of_answers (h : s.Answers q r) : ¬ TransGen s.Asks q q := by
  intro hcycle
  have hdescent : ∀ levels r, s.answer? levels q ≠ some r := by
    intro levels
    induction levels using Nat.strong_induction_on with
    | _ levels ih =>
      intro r h
      obtain ⟨levels', r', hlt, h'⟩ := answer?_of_transGen h hcycle
      exact ih levels' hlt r' h'
  obtain ⟨levels, h⟩ := h
  exact hdescent levels r h

/-- The imports form no cycle if and only if every question has an answer that needs no limit. -/
theorem acyclic_iff : s.Acyclic ↔ ∀ q, ∃ r, s.Answers q r := by
  constructor
  · exact fun hacyclic => hacyclic.answers
  · intro h q
    obtain ⟨r, hr⟩ := h q
    exact not_transGen_of_answers hr

/-- Imports of single names form no cycle if the questions what they name have answers. -/
theorem acyclic_of_named (hnamed : ∀ module, globBases (s.importsOf module) = [])
    (h : ∀ d ∈ s.imports, ∃ r, s.Answers (.path d.1 d.2.path) r) : s.Acyclic := by
  have hname : ∀ module n, ∃ r, s.Answers (.name module n) r := by
    intro module n
    refine exists_answer_of_asks fun q hq => ?_
    unfold Asks inquiry at hq
    dsimp only at hq
    unfold nameInquiry at hq
    rw [hnamed] at hq
    split at hq
    · exact absurd hq Inquiry.not_asks_answered
    split at hq
    · rename_i target htarget
      obtain ⟨m, hm, rfl⟩ := importNamed_mem htarget
      cases hq with
      | first => exact h (module, m) (import_mem hm)
      | later _ hnext => exact absurd hnext Inquiry.not_asks_answered
    · exact absurd hq Inquiry.not_asks_answered
  refine acyclic_iff.2 fun q => ?_
  cases q with
  | name module n => exact hname module n
  | path module written =>
    induction hlength : written.segments.length using Nat.strong_induction_on generalizing written with
    | _ length ih =>
      refine exists_answer_of_asks fun q hq => ?_
      obtain ⟨rest, rfl, hrest⟩ | ⟨m, hm, rfl⟩ | ⟨module', n, rfl⟩ := asks_path hq
      · exact ih _ (hlength ▸ hrest) rest rfl
      · exact h (module, m) (import_mem hm)
      · exact hname module' n

end Scope

end DisplayGen
