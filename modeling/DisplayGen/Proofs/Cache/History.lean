import DisplayGen.Proofs.Cache.Removed
import Mathlib.Data.List.Forall2
import Mathlib.Data.List.Induction

/-!
# Histories of a cache

A cache changes in two ways: one artifact is put into it, or a commit replaces all that it has. After any
changes there is a list of artifacts that count (`Cache.standing`): those of the latest commit, and behind
them those that were put in since. Types may share a key, so the list may have several artifacts for one.

* `Cache.after_eq`: the cache is the one that this list makes.
* `Cache.get?_ofList_eq`: in the cache of a list, the last artifact of a key stands under it.
* `Cache.last_counts`: what a cache is asked, and what a commit reports, is told by the last artifact of each
  key.
-/

namespace DisplayGen

/-- The last artifact of a key. -/
def Generated.lastUnder (k : String) (gs : List Generated) : Option Generated :=
  (gs.filter fun g => g.key = k).getLast?

namespace Cache

open Generated (lastUnder)

variable {gs : List Generated} {k : String}

theorem lastUnder_concat (gs : List Generated) (g : Generated) (k : String) :
    lastUnder k (gs ++ [g]) = if g.key = k then some g else lastUnder k gs := by
  unfold lastUnder
  rw [List.filter_append]
  by_cases hk : g.key = k
  · simp [hk]
  · simp [hk]

theorem lastUnder_eq_none : lastUnder k gs = none ↔ k ∉ gs.map Generated.key := by
  unfold lastUnder
  rw [List.getLast?_eq_none_iff, List.filter_eq_nil_iff]
  simp

theorem ofList_concat (gs : List Generated) (g : Generated) :
    ofList (gs ++ [g]) = (ofList gs).insert g := List.foldl_append

/-- Under a key stands the last artifact that was put in with it. -/
theorem get?_ofList_eq (gs : List Generated) (k : String) : (ofList gs).get? k = lastUnder k gs := by
  induction gs using List.reverseRecOn with
  | nil => rfl
  | append_singleton gs g ih =>
    rw [ofList_concat, get?_insert, ih, lastUnder_concat]

/-! ## Changes -/

/-- What changes a cache. -/
inductive Change where
  /-- One artifact is put in. -/
  | seed (g : Generated)
  /-- A new generation takes the place of all that there is. -/
  | commit (next : List Generated)

/-- The cache after a change. -/
def change (c : Cache) : Change → Cache
  | .seed g => c.insert g
  | .commit next => (c.commit next).2

/-- The artifacts that count after a change. -/
def stand (gs : List Generated) : Change → List Generated
  | .seed g => gs ++ [g]
  | .commit next => next

/-- The cache that changes make of an empty one. -/
def after (changes : List Change) : Cache := changes.foldl change empty

/-- The artifacts that count after changes of an empty cache: those of the latest commit, and behind them
those that were put in since. -/
def standing (changes : List Change) : List Generated := changes.foldl stand []

theorem change_ofList (gs : List Generated) (ch : Change) :
    (ofList gs).change ch = ofList (stand gs ch) := by
  cases ch with
  | seed g => exact (ofList_concat gs g).symm
  | commit next => rfl

theorem after_eq (changes : List Change) : after changes = ofList (standing changes) := by
  have hfold : changes.foldl change (ofList []) = ofList (changes.foldl stand []) :=
    List.foldl_hom ofList change_ofList
  exact hfold

/-- A commit reports each key that is gone, in order, by the name of the last artifact that counted for
it. -/
theorem removed_lastUnder (gs next : List Generated) :
    ((ofList gs).removedKeys next).Pairwise (· < ·) ∧
    (∀ k, k ∈ (ofList gs).removedKeys next ↔ k ∈ gs.map Generated.key ∧ k ∉ next.map Generated.key) ∧
    List.Forall₂ (fun k name => ∃ g, lastUnder k gs = some g ∧ g.artifact.name = name)
      ((ofList gs).removedKeys next) ((ofList gs).commit next).1 := by
  have hsorted := sorted_ofList gs
  -- the keys of the entries are distinct, so an entry is all that its key stands for
  have hentry : ∀ k g, lastUnder k gs = some g ↔ g ∈ (ofList gs).entries ∧ g.key = k := by
    intro k g
    rw [← get?_ofList_eq, get?_eq_some hsorted.nodup_keys]
  have hkey : ∀ k, k ∈ (ofList gs).entries.map Generated.key ↔ k ∈ gs.map Generated.key := by
    intro k
    rw [List.mem_map, ← not_iff_not, ← lastUnder_eq_none, Option.eq_none_iff_forall_ne_some]
    simp only [ne_eq, hentry, not_exists]
  refine ⟨pairwise_removedKeys hsorted next, fun k => ?_, ?_⟩
  · unfold removedKeys
    rw [List.mem_filter, hkey, decide_eq_true_iff]
  · rw [removed_eq, removedKeys_eq, List.forall₂_map_left_iff, List.forall₂_map_right_iff,
      List.forall₂_same]
    exact fun g hg => ⟨g, (hentry _ g).2 ⟨(List.mem_filter.1 hg).1, rfl⟩, rfl⟩

/-- After any changes, the cache holds an artifact for a summary exactly if the last one of the summary's key,
among those that count, was made for an equal summary. A commit then reports the keys that counted and that
the new generation does not have, each once and in order, by the name of the last artifact of the key. -/
theorem last_counts (changes : List Change) :
    (∀ s a, (after changes).lookup s = some a ↔ lastUnder s.key (standing changes) = some ⟨s, a⟩) ∧
    ∀ next, ∃ keys : List String, keys.Pairwise (· < ·) ∧
      (∀ k, k ∈ keys ↔ k ∈ (standing changes).map Generated.key ∧ k ∉ next.map Generated.key) ∧
      List.Forall₂ (fun k name => ∃ g, lastUnder k (standing changes) = some g ∧ g.artifact.name = name)
        keys ((after changes).commit next).1 := by
  rw [after_eq]
  refine ⟨fun s a => ?_, fun next => ?_⟩
  · rw [lookup_eq_some, get?_ofList_eq]
  · exact ⟨_, removed_lastUnder (standing changes) next⟩

/-- A type in a module whose name has a point hides one of the same key. -/
example : (after [.seed ⟨⟨"demo::a", "T", []⟩, ⟨"demo.a.T.g.rs", ["a"], "1"⟩⟩,
    .seed ⟨⟨"demo.a", "T", []⟩, ⟨"demo.a.T.g.rs", [], "2"⟩⟩]).lookup ⟨"demo::a", "T", []⟩ = none := by
  decide +kernel

end Cache

end DisplayGen
