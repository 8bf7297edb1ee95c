import DisplayGen.Proofs.Disk.Counts
import DisplayGen.Proofs.Generator.Agreement

/-!
# Generators up to counts

`Generator.UpToCounts g g'`: two generators have the same marker and extension, and their caches hold the same
but for the counts that texts tell. What they have counted themselves is left open.

* `UpToCounts.run`: their runs over one crate fail alike, or give the same up to counts. After them the
  generators are the same up to counts again.
* `Run.UpToCounts.save_relates`: saves of such runs fail alike, and leave disks that are the same up to counts.
-/

namespace DisplayGen

/-- The same name and module, and the same text up to its count. -/
structure Artifact.UpToCount (a b : Artifact) : Prop where
  name : a.name = b.name
  module : a.module = b.module
  text : Text.UpToCount a.text b.text

/-- The same artifact up to its count, for the same summary. -/
structure Generated.UpToCount (x y : Generated) : Prop where
  summary : x.summary = y.summary
  artifact : x.artifact.UpToCount y.artifact

theorem Artifact.UpToCount.refl (a : Artifact) : a.UpToCount a := ⟨rfl, rfl, .refl _⟩

theorem Generated.UpToCount.key {x y : Generated} (h : x.UpToCount y) : x.key = y.key :=
  congrArg Summary.key h.summary

/-! ## Caches -/

/-- The same entries up to their counts. -/
def Cache.UpToCounts (c c' : Cache) : Prop :=
  List.Forall₂ Generated.UpToCount c.entries c'.entries

namespace Cache.UpToCounts

variable {c c' : Cache} {x y : Generated} {xs ys : List Generated}

theorem refl (c : Cache) : c.UpToCounts c :=
  List.forall₂_same.2 fun _ _ => ⟨rfl, .refl _⟩

theorem find? (h : List.Forall₂ Generated.UpToCount xs ys) (k : String) :
    Option.Rel Generated.UpToCount (xs.find? fun g => g.key == k) (ys.find? fun g => g.key == k) := by
  induction h with
  | nil => exact .none
  | cons hfirst _ ih =>
    rw [List.find?_cons, List.find?_cons, hfirst.key]
    split
    · exact .some hfirst
    · exact ih

theorem get? (h : c.UpToCounts c') (k : String) :
    Option.Rel Generated.UpToCount (c.get? k) (c'.get? k) := find? h k

theorem lookup (h : c.UpToCounts c') (s : Summary) :
    Option.Rel Artifact.UpToCount (c.lookup s) (c'.lookup s) := by
  unfold Cache.lookup
  rcases optionRel_cases (h.get? s.key) with ⟨hx, hy⟩ | ⟨x, y, hx, hy, hxy⟩
  · rw [hx, hy]
    exact .none
  · rw [hx, hy]
    dsimp only
    rw [hxy.summary]
    split
    · exact .some hxy.artifact
    · exact .none

theorem insertInto (hxy : x.UpToCount y) (h : List.Forall₂ Generated.UpToCount xs ys) :
    List.Forall₂ Generated.UpToCount (x.insertInto xs) (y.insertInto ys) := by
  induction h with
  | nil => exact .cons hxy .nil
  | cons hfirst hrest ih =>
    unfold Generated.insertInto
    rw [hxy.key, hfirst.key]
    split
    · exact .cons hxy (.cons hfirst hrest)
    · split
      · exact .cons hxy hrest
      · exact .cons hfirst ih

theorem insert (h : c.UpToCounts c') (hxy : x.UpToCount y) : (c.insert x).UpToCounts (c'.insert y) :=
  insertInto hxy h

theorem ofList (h : List.Forall₂ Generated.UpToCount xs ys) :
    (Cache.ofList xs).UpToCounts (Cache.ofList ys) :=
  List.rel_foldl (P := UpToCounts) (R := Generated.UpToCount) (fun _ _ hcache _ _ hxy => hcache.insert hxy) (refl empty) h

/-- What a commit removes does not depend on counts. -/
theorem removed (h : c.UpToCounts c') (hgs : List.Forall₂ Generated.UpToCount xs ys) :
    (c.commit xs).1 = (c'.commit ys).1 := by
  have hgone : List.Forall₂ Generated.UpToCount
      (c.entries.filter fun g => ((Cache.ofList xs).get? g.key).isNone)
      (c'.entries.filter fun g => ((Cache.ofList ys).get? g.key).isNone) := by
    refine List.rel_filter (fun x y hxy => ?_) h
    dsimp only
    rw [hxy.key]
    rcases optionRel_cases ((ofList hgs).get? y.key) with ⟨hx, hy⟩ | ⟨_, _, hx, hy, -⟩
    · rw [hx, hy]
    · rw [hx, hy]
      exact Iff.rfl
  exact map_eq_of_forall₂ (fun x y hxy => hxy.artifact.name) hgone

end Cache.UpToCounts

/-! ## Runs -/

/-- The same results up to the counts of artifacts. -/
structure Run.UpToCounts (r r' : Run) : Prop where
  marker : r.marker = r'.marker
  generated : List.Forall₂ Generated.UpToCount r.generated r'.generated
  emitted : r.emitted = r'.emitted
  reused : r.reused = r'.reused
  removed : r.removed = r'.removed

/-- The same up to counts has been generated so far. -/
structure Progress.UpToCounts (p p' : Progress) : Prop where
  generated : List.Forall₂ Generated.UpToCount p.generated p'.generated
  emitted : p.emitted = p'.emitted
  reused : p.reused = p'.reused

/-- The same settings and, up to counts, the same cache. -/
structure Generator.UpToCounts (g g' : Generator) : Prop where
  marker : g.marker = g'.marker
  extension : g.extension = g'.extension
  cache : g.cache.UpToCounts g'.cache

/-- The same result and generator up to counts. -/
structure Outcome.UpToCounts (o o' : Outcome) : Prop where
  result : Agree Run.UpToCounts o.result o'.result
  generator : o.generator.UpToCounts o'.generator

theorem Crate.addArtifact_upToCount {a b : Artifact} (h : a.UpToCount b) (c : Crate) :
    c.addArtifact a = c.addArtifact b := by
  unfold addArtifact add
  rw [h.name, h.module, h.text.read?_eq]

namespace Generator

theorem addAll_upToCounts {as bs : List Artifact} (h : List.Forall₂ Artifact.UpToCount as bs) (c : Crate) :
    addAll c as = addAll c bs := by
  induction h generalizing c with
  | nil => rfl
  | cons hfirst _ ih =>
    unfold addAll
    rw [Crate.addArtifact_upToCount hfirst]
    simp only [ih]

namespace UpToCounts

variable {g g' : Generator} {p p' : Progress}

theorem produce (h : g.UpToCounts g') (hp : p.UpToCounts p') (s : Summary) :
    Agree Progress.UpToCounts (g.produce p s) (g'.produce p' s) := by
  unfold Generator.produce
  rcases optionRel_cases (h.cache.lookup s) with ⟨hx, hy⟩ | ⟨a, b, hx, hy, hab⟩
  · rw [hx, hy]
    dsimp only
    rw [emit_eq, emit_eq, h.extension]
    cases DisplayCode.ofSummary s with
    | error e => exact .error e
    | ok code =>
      refine .ok ⟨?_, ?_, hp.reused⟩
      · exact List.rel_append hp.generated (.cons ⟨rfl, rfl, rfl, .artifactText _ _ code⟩ .nil)
      · exact congrArg (· ++ [s.artifactName g'.extension]) hp.emitted
  · rw [hx, hy]
    refine .ok ⟨?_, hp.emitted, ?_⟩
    · exact List.rel_append hp.generated (.cons ⟨rfl, hab⟩ .nil)
    · dsimp only
      rw [hp.reused, hab.name]

theorem produceAll (h : g.UpToCounts g') (hp : p.UpToCounts p') (ss : List Summary) :
    (g.produceAll p ss).1.UpToCounts (g'.produceAll p' ss).1 ∧
      (g.produceAll p ss).2 = (g'.produceAll p' ss).2 := by
  induction ss generalizing p p' with
  | nil => exact ⟨hp, rfl⟩
  | cons s ss ih =>
    unfold Generator.produceAll
    rcases (h.produce hp s).cases with ⟨e, hx, hy⟩ | ⟨p₁, p₁', hx, hy, hp₁⟩
    · rw [hx, hy]
      exact ⟨hp, rfl⟩
    · rw [hx, hy]
      exact ih hp₁

theorem runMarked (h : g.UpToCounts g') (marker : Artifact) (c : Crate) :
    (g.runMarked marker c).UpToCounts (g'.runMarked marker c) := by
  have hstart : Progress.UpToCounts ⟨g.tally, [], [], []⟩ ⟨g'.tally, [], [], []⟩ := ⟨.nil, rfl, rfl⟩
  have hproduced := h.produceAll hstart (c.summaries g'.marker.path)
  unfold Generator.runMarked
  rw [h.marker, h.extension]
  dsimp only
  cases firstRepeated? [] ((c.summaries g'.marker.path).map fun s => s.artifactName g'.extension) with
  | some name => exact ⟨.error _, h⟩
  | none =>
    generalize g.produceAll ⟨g.tally, [], [], []⟩ (c.summaries g'.marker.path) = o at hproduced ⊢
    generalize g'.produceAll ⟨g'.tally, [], [], []⟩ (c.summaries g'.marker.path) = o' at hproduced ⊢
    obtain ⟨p, failure⟩ := o
    obtain ⟨p', failure'⟩ := o'
    obtain ⟨hp, hfailure⟩ := hproduced
    dsimp only at hp hfailure
    subst failure'
    cases failure with
    | some e => exact ⟨.error e, rfl, rfl, h.cache⟩
    | none =>
      have hartifacts : List.Forall₂ Artifact.UpToCount (p.generated.map (·.artifact))
          (p'.generated.map (·.artifact)) := by
        rw [List.forall₂_map_left_iff, List.forall₂_map_right_iff]
        exact hp.generated.imp fun x y hxy => hxy.artifact
      dsimp only
      rw [addAll_upToCounts hartifacts]
      cases addAll c (p'.generated.map (·.artifact)) with
      | mk c' failure =>
        cases failure with
        | some e => exact ⟨.error e, rfl, rfl, h.cache⟩
        | none =>
          refine ⟨.ok ⟨rfl, hp.generated, hp.emitted, hp.reused, ?_⟩, rfl, rfl, ?_⟩
          · exact h.cache.removed hp.generated
          · exact Cache.UpToCounts.ofList hp.generated

/-- Runs of generators that are the same up to counts are the same up to counts, whatever the generators
have counted. -/
theorem run (h : g.UpToCounts g') (c : Crate) : (g.run c).UpToCounts (g'.run c) := by
  unfold Generator.run
  rw [h.marker]
  cases g'.marker.definition with
  | error e => exact ⟨.error e, h⟩
  | ok marker =>
    dsimp only
    cases c.contains marker.name with
    | true => exact ⟨.error _, h⟩
    | false =>
      cases c.addArtifact marker with
      | error e => exact ⟨.error e, h⟩
      | ok marked => exact h.runMarked marker marked

end UpToCounts

end Generator

/-! ## Saves -/

/-- It makes no difference whether a file that holds the text up to its count is written. -/
theorem Artifact.UpToCount.save_relates {a b : Artifact} (h : a.UpToCount b) (dir : String) :
    (a.save dir).Relates Disk.UpToCounts (b.save dir) := by
  intro d d' hd
  unfold Artifact.save
  dsimp only
  rw [Work.look_bind, Work.look_bind, h.name]
  split
  · split
    · exact Work.Relates.change (fun d d' hd => hd.put _ (.text h.text)) d d' hd
    · rename_i hthere
      have hread := toOption_eq_some (not_not.1 hthere)
      obtain ⟨d₁, hwrite, hd₁⟩ := hd.symm.write_same hread h.text.symm
      rw [Work.outcome_change, hwrite]
      exact ⟨rfl, hd₁.symm⟩
  · rename_i hthere
    have hread := toOption_eq_some (not_not.1 hthere)
    split
    · obtain ⟨d₁', hwrite, hd₁'⟩ := hd.write_same hread h.text
      rw [Work.outcome_change, hwrite]
      exact ⟨rfl, hd₁'⟩
    · exact ⟨rfl, hd⟩

namespace Run.UpToCounts

variable {r r' : Run}

theorem manifest_eq (h : r.UpToCounts r') (crateName extension : String) :
    r.manifest crateName extension = r'.manifest crateName extension := by
  have hsummaries : r.summaries = r'.summaries :=
    map_eq_of_forall₂ (fun x y hxy => hxy.summary) h.generated
  unfold Run.manifest
  rw [h.marker, hsummaries]

/-- Saves of runs that are the same up to counts leave disks that are. -/
theorem save_relates (h : r.UpToCounts r') (crateName extension dir : String) :
    (r.save crateName extension dir).Relates Disk.UpToCounts (r'.save crateName extension dir) := by
  refine Run.save_relates Disk.UpToCounts.respected ?_ h.removed (h.manifest_eq crateName extension)
  refine .cons ?_ ?_
  · rw [h.marker]
    exact (Artifact.UpToCount.refl _).save_relates dir
  · rw [List.forall₂_map_left_iff, List.forall₂_map_right_iff]
    exact h.generated.imp fun x y hxy => hxy.artifact.save_relates dir

end Run.UpToCounts

end DisplayGen
