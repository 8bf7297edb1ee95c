import DisplayGen.Cache
import Mathlib.Data.List.Nodup
import Mathlib.Data.List.Perm.Basic
import Mathlib.Data.String.Basic

/-!
# Laws of the cache

* `get?_insert`: an insertion replaces what stands under one key and leaves the others.
* `entries_ofList_perm`: the cache of a list with distinct keys holds the list, reordered.
* `lookup_ofList`: such a cache gives an artifact for a summary exactly if the list pairs the two.
* `ofList_perm`: the order in which artifacts with distinct keys are put into a cache does not matter.
* `mem_removed`, `removed_nodup`: what `commit` calls removed.
-/

namespace DisplayGen

namespace Generated

variable {g : Generated} {l : List Generated} {k : String}

theorem find?_insertInto (g : Generated) (l : List Generated) (k : String) :
    (g.insertInto l).find? (fun x => x.key == k) =
      if g.key = k then some g else l.find? fun x => x.key == k := by
  induction l with
  | nil =>
    by_cases hk : g.key = k
    · simp [insertInto, hk]
    · simp [insertInto, hk]
  | cons h hs ih =>
    unfold insertInto
    split
    · by_cases hk : g.key = k
      · simp [hk]
      · simp [hk]
    · split
      · rename_i heq
        by_cases hk : g.key = k
        · simp [hk]
        · have hk' : h.key ≠ k := heq ▸ hk
          simp [hk, hk']
      · rename_i hne
        by_cases hh : h.key = k
        · have hk : g.key ≠ k := hh ▸ hne
          simp [hh, hk]
        · simp [hh, ih]

theorem insertInto_perm (h : g.key ∉ l.map key) : (g.insertInto l).Perm (g :: l) := by
  induction l with
  | nil => exact List.Perm.refl _
  | cons x xs ih =>
    rw [List.map_cons, List.mem_cons, not_or] at h
    unfold insertInto
    rw [if_neg h.1]
    split
    · exact List.Perm.refl _
    · exact ((ih h.2).cons x).trans (List.Perm.swap g x xs)

theorem mem_insertInto {x : Generated} (h : x ∈ g.insertInto l) : x = g ∨ x ∈ l := by
  induction l with
  | nil => exact .inl (List.mem_singleton.1 h)
  | cons y ys ih =>
    unfold insertInto at h
    split at h
    · exact List.mem_cons.1 h
    · split at h
      · obtain h | h := List.mem_cons.1 h
        · exact .inl h
        · exact .inr (List.mem_cons_of_mem y h)
      · obtain rfl | h := List.mem_cons.1 h
        · exact .inr (List.mem_cons_self ..)
        · exact (ih h).imp_right (List.mem_cons_of_mem y)

/-- The artifacts are in the order of their keys, which are distinct. -/
def Sorted (l : List Generated) : Prop := l.Pairwise fun x y => x.key < y.key

theorem Sorted.nodup_keys (h : Sorted l) : (l.map key).Nodup :=
  (List.pairwise_map.2 h).imp fun hlt => hlt.ne

theorem Sorted.insertInto (h : Sorted l) (g : Generated) : Sorted (g.insertInto l) := by
  induction l with
  | nil => exact List.pairwise_singleton _ _
  | cons x xs ih =>
    obtain ⟨hx, hxs⟩ := List.pairwise_cons.1 h
    unfold Generated.insertInto
    split
    · rename_i hlt
      refine List.pairwise_cons.2 ⟨List.forall_mem_cons.2 ⟨hlt, fun y hy => ?_⟩, h⟩
      exact lt_trans hlt (hx y hy)
    · rename_i hge
      split
      · rename_i heq
        exact List.pairwise_cons.2 ⟨fun y hy => heq ▸ hx y hy, hxs⟩
      · rename_i hne
        refine List.pairwise_cons.2 ⟨fun y hy => ?_, ih hxs⟩
        obtain rfl | hy := mem_insertInto hy
        · exact lt_of_le_of_ne (not_lt.1 hge) (Ne.symm hne)
        · exact hx y hy

end Generated

namespace Cache

variable {c : Cache} {gs : List Generated} {s : Summary} {a : Artifact}

theorem get?_insert (c : Cache) (g : Generated) (k : String) :
    (c.insert g).get? k = if g.key = k then some g else c.get? k :=
  Generated.find?_insertInto g c.entries k

/-- After insertions one after the other, the last of those with a key stands under it. -/
theorem get?_foldl_insert (c : Cache) (gs : List Generated) (k : String) :
    (gs.foldl insert c).get? k = (gs.reverse.find? fun g => g.key == k).or (c.get? k) := by
  induction gs generalizing c with
  | nil => rfl
  | cons g gs ih =>
    rw [List.foldl_cons, ih, get?_insert, List.reverse_cons, List.find?_append]
    by_cases hk : g.key = k
    · simp [hk]
    · simp [hk]

theorem entries_foldl_insert (hnew : (gs.map Generated.key).Nodup)
    (hc : ∀ k ∈ gs.map Generated.key, k ∉ c.entries.map Generated.key) :
    (gs.foldl insert c).entries.Perm (c.entries ++ gs) := by
  induction gs generalizing c with
  | nil => simp
  | cons g gs ih =>
    rw [List.map_cons, List.nodup_cons] at hnew
    rw [List.map_cons, List.forall_mem_cons] at hc
    have hperm : (c.insert g).entries.Perm (g :: c.entries) := Generated.insertInto_perm hc.1
    have hrest : ∀ k ∈ gs.map Generated.key, k ∉ (c.insert g).entries.map Generated.key := by
      intro k hk hmem
      obtain hmem | hmem := List.mem_cons.1 ((hperm.map Generated.key).mem_iff.1 hmem)
      · exact hnew.1 (hmem ▸ hk)
      · exact hc.2 k hk hmem
    exact (ih hnew.2 hrest).trans ((hperm.append_right gs).trans List.perm_middle.symm)

theorem entries_ofList_perm (h : (gs.map Generated.key).Nodup) : (ofList gs).entries.Perm gs :=
  entries_foldl_insert h fun _ _ hk => by cases hk

theorem sorted_foldl_insert (h : Generated.Sorted c.entries) :
    Generated.Sorted (gs.foldl insert c).entries := by
  induction gs generalizing c with
  | nil => exact h
  | cons g gs ih => exact ih (h.insertInto g)

theorem sorted_ofList (gs : List Generated) : Generated.Sorted (ofList gs).entries :=
  sorted_foldl_insert List.Pairwise.nil

/-- Where the keys are distinct, each entry stands under its own key, and nothing else stands there. -/
theorem get?_eq_some (h : (c.entries.map Generated.key).Nodup) {k : String} {g : Generated} :
    c.get? k = some g ↔ g ∈ c.entries ∧ g.key = k := by
  constructor
  · intro hget
    exact ⟨List.mem_of_find?_eq_some hget, by simpa using List.find?_some hget⟩
  · rintro ⟨hmem, rfl⟩
    cases hget : c.get? g.key with
    | none => exact absurd (List.find?_eq_none.1 hget g hmem) (by simp)
    | some g' =>
      have hkey : g'.key = g.key := by simpa using List.find?_some hget
      rw [List.inj_on_of_nodup_map h (List.mem_of_find?_eq_some hget) hmem hkey]

/-- In the cache of a list with distinct keys, an entry stands under its key. -/
theorem get?_ofList (h : (gs.map Generated.key).Nodup) {k : String} {g : Generated} :
    (ofList gs).get? k = some g ↔ g ∈ gs ∧ g.key = k := by
  have hperm := entries_ofList_perm h
  rw [get?_eq_some ((hperm.map _).nodup_iff.2 h), hperm.mem_iff]

theorem mem_entries_foldl_insert {g : Generated} (h : g ∈ (gs.foldl insert c).entries) :
    g ∈ c.entries ∨ g ∈ gs := by
  induction gs generalizing c with
  | nil => exact .inl h
  | cons g₁ gs ih =>
    obtain h | h := ih h
    · obtain rfl | h := Generated.mem_insertInto h
      · exact .inr (List.mem_cons_self ..)
      · exact .inl h
    · exact .inr (List.mem_cons_of_mem g₁ h)

theorem lookup_eq_some :
    c.lookup s = some a ↔ c.get? s.key = some ⟨s, a⟩ := by
  unfold lookup
  cases hget : c.get? s.key with
  | none => simp
  | some g =>
    obtain ⟨s', a'⟩ := g
    by_cases hs : s' = s
    · simp [hs]
    · simp [hs]

theorem lookup_ofList (h : (gs.map Generated.key).Nodup) :
    (ofList gs).lookup s = some a ↔ ⟨s, a⟩ ∈ gs := by
  rw [lookup_eq_some, get?_ofList h]
  exact and_iff_left rfl

/-! ## Commits -/

variable {last next : List Generated}

theorem isNone_get?_ofList (next : List Generated) (k : String) :
    ((ofList next).get? k).isNone = true ↔ k ∉ next.map Generated.key := by
  have hempty : empty.get? k = none := rfl
  unfold ofList
  rw [get?_foldl_insert, hempty, Option.or_none, Option.isNone_iff_eq_none, List.find?_eq_none]
  simp

/-- What a commit removes: the names of the entries whose keys the new generation does not have. -/
theorem removed_eq (c : Cache) (next : List Generated) :
    (c.commit next).1 =
      (c.entries.filter fun g => decide (g.key ∉ next.map Generated.key)).map (·.artifact.name) := by
  unfold commit
  dsimp only
  congr 1
  refine List.filter_congr fun g _ => ?_
  rw [Bool.eq_iff_iff, isNone_get?_ofList, decide_eq_true_iff]

theorem mem_removed {name : String} : name ∈ (c.commit next).1 ↔
    ∃ y ∈ c.entries, y.key ∉ next.map Generated.key ∧ y.artifact.name = name := by
  rw [removed_eq]
  simp only [List.mem_map, List.mem_filter, decide_eq_true_iff, and_assoc]

theorem removed_nodup (hlast : (last.map Generated.key).Nodup)
    (hnames : (last.map (·.artifact.name)).Nodup) : ((ofList last).commit next).1.Nodup := by
  have hentries : ((ofList last).entries.map (·.artifact.name)).Nodup :=
    ((entries_ofList_perm hlast).map _).nodup_iff.2 hnames
  exact hentries.sublist (List.filter_sublist.map _)

end Cache

end DisplayGen
