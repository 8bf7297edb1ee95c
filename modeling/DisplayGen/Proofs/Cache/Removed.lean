import DisplayGen.Proofs.Cache
import DisplayGen.Proofs.Emission

/-!
# The order of removed names

A commit gives the names that it removes in the order of their keys. A name is a key with an ending, and
an ending keeps the order of two texts as long as neither begins with the other
(`Text.append_lt_append_iff`). Where one key goes on from another, the two are in order without their
endings, and may be the other way round with them.

* `Cache.removedKeys`: the keys that are gone, in order.
* `Cache.removed_order`: the names are those of the gone keys, in the order of the keys; they are in their
  own order exactly if no gone key goes on from another with what comes before the ending.
-/

namespace DisplayGen

/-! ## Texts with one ending -/

theorem append_lt_append_iff {α : Type} [LinearOrder α] {xs ys : List α} (h : xs < ys) (zs : List α) :
    xs ++ zs < ys ++ zs ↔ ∀ rest, ys = xs ++ rest → zs < rest ++ zs := by
  induction xs generalizing ys with
  | nil => simp
  | cons x xs ih =>
    cases ys with
    | nil => exact absurd h (List.not_lt_nil _)
    | cons y ys =>
      rw [List.cons_append, List.cons_append, List.cons_lt_cons_iff]
      rcases List.cons_lt_cons_iff.1 h with hxy | ⟨rfl, htail⟩
      · refine ⟨fun _ rest heq => ?_, fun _ => .inl hxy⟩
        exact absurd (List.cons.inj heq).1.symm hxy.ne
      · simpa using ih htail

theorem Text.append_lt_append_iff {s t : String} (h : s < t) (ending : String) :
    s ++ ending < t ++ ending ↔ ∀ rest, t = s ++ rest → ending < rest ++ ending := by
  rw [String.lt_iff_toList_lt] at h
  rw [String.lt_iff_toList_lt, String.toList_append, String.toList_append,
    DisplayGen.append_lt_append_iff h]
  constructor
  · rintro hrest rest rfl
    rw [String.lt_iff_toList_lt, String.toList_append]
    exact hrest rest.toList String.toList_append
  · intro hrest rest heq
    have ht : t = s ++ String.ofList rest := by
      apply String.toList_injective
      rw [String.toList_append, String.toList_ofList, heq]
    have hlt := hrest (String.ofList rest) ht
    rwa [String.lt_iff_toList_lt, String.toList_append, String.toList_ofList] at hlt

theorem Text.lt_append (s : String) {t : String} (h : t ≠ "") : s < s ++ t := by
  have hnil : [] < t.toList := by
    cases ht : t.toList with
    | nil => exact absurd (String.toList_eq_nil_iff.1 ht) h
    | cons c cs => exact List.nil_lt_cons c cs
  have hlt : s.toList ++ [] < s.toList ++ t.toList := List.append_left_lt hnil
  rwa [List.append_nil, ← String.toList_append, ← String.lt_iff_toList_lt] at hlt

/-- A map takes a list in order to one in order if it keeps the order of any two members. -/
theorem pairwise_map_lt_iff {α β : Type} [LinearOrder α] [LT β] {f : α → β} {as : List α}
    (h : as.Pairwise (· < ·)) :
    (as.map f).Pairwise (· < ·) ↔ ∀ a ∈ as, ∀ b ∈ as, a < b → f a < f b := by
  rw [List.pairwise_map]
  induction as with
  | nil => simp
  | cons a as ih =>
    obtain ⟨ha, has⟩ := List.pairwise_cons.1 h
    rw [List.pairwise_cons, ih has]
    constructor
    · rintro ⟨hfirst, hrest⟩ x hx y hy hxy
      rcases List.mem_cons.1 hy with hya | hy
      · -- nothing comes before the first
        rw [hya] at hxy
        rcases List.mem_cons.1 hx with hxa | hx
        · exact absurd hxa hxy.ne
        · exact absurd hxy (lt_asymm (ha x hx))
      · rcases List.mem_cons.1 hx with hxa | hx
        · exact hxa ▸ hfirst y hy
        · exact hrest x hx y hy hxy
    · intro hall
      refine ⟨fun b hb => ?_, fun x hx y hy => ?_⟩
      · exact hall a (List.mem_cons_self ..) b (List.mem_cons_of_mem a hb) (ha b hb)
      · exact hall x (List.mem_cons_of_mem a hx) y (List.mem_cons_of_mem a hy)

namespace Cache

variable {c : Cache} {extension : String}

/-- The keys in the cache that a new generation does not have. -/
def removedKeys (c : Cache) (next : List Generated) : List String :=
  (c.entries.map Generated.key).filter fun k => k ∉ next.map Generated.key

theorem removedKeys_eq (c : Cache) (next : List Generated) : c.removedKeys next =
    (c.entries.filter fun g => decide (g.key ∉ next.map Generated.key)).map Generated.key := by
  unfold removedKeys
  rw [List.filter_map]
  rfl

theorem removed_eq_names (hnames : ∀ g ∈ c.entries, g.artifact.name = g.summary.artifactName extension)
    (next : List Generated) :
    (c.commit next).1 = (c.removedKeys next).map (· ++ (".g." ++ extension)) := by
  rw [removed_eq, removedKeys_eq, List.map_map]
  refine List.map_congr_left fun g hg => ?_
  rw [hnames g (List.mem_filter.1 hg).1, Summary.artifactName_eq]
  rfl

theorem pairwise_removedKeys (hc : Generated.Sorted c.entries) (next : List Generated) :
    (c.removedKeys next).Pairwise (· < ·) :=
  (List.pairwise_map.2 hc).filter _

/-- What a commit removes from a cache whose artifacts have the names of their summaries: the names of the
keys that are gone, in the order of the keys. The names are in order themselves if and only if, wherever one
of these keys goes on from another, the ending of names comes before what it goes on with. -/
theorem removed_order (hc : Generated.Sorted c.entries)
    (hnames : ∀ g ∈ c.entries, g.artifact.name = g.summary.artifactName extension)
    (next : List Generated) :
    (c.commit next).1 = (c.removedKeys next).map (· ++ (".g." ++ extension)) ∧
    (c.removedKeys next).Pairwise (· < ·) ∧
    ((c.commit next).1.Pairwise (· < ·) ↔
      ∀ k ∈ c.removedKeys next, ∀ rest, rest ≠ "" → k ++ rest ∈ c.removedKeys next →
        ".g." ++ extension < rest ++ (".g." ++ extension)) := by
  have hkeys := pairwise_removedKeys hc next
  have heq := removed_eq_names hnames next
  refine ⟨heq, hkeys, ?_⟩
  rw [heq, pairwise_map_lt_iff hkeys]
  constructor
  · intro hall k hk rest hrest hmem
    have hlt : k < k ++ rest := Text.lt_append k hrest
    exact (Text.append_lt_append_iff hlt _).1 (hall k hk _ hmem hlt) rest rfl
  · intro hall k hk k' hk' hlt
    rw [Text.append_lt_append_iff hlt]
    rintro rest rfl
    refine hall k hk rest ?_ hk'
    rintro rfl
    rw [String.append_empty] at hlt
    exact lt_irrefl k hlt

/-- The artifacts of a type and of one in the module of its name. -/
def typeAndModule : Cache :=
  ⟨[⟨⟨"demo", "A", ["x"]⟩, ⟨"demo.A.g.rs", [], ""⟩⟩, ⟨⟨"demo::A", "B", []⟩, ⟨"demo.A.B.g.rs", ["A"], ""⟩⟩]⟩

/-- The key of the type comes first, but the name of the type comes last. -/
theorem removed_order_nested : Generated.Sorted typeAndModule.entries ∧
    (∀ g ∈ typeAndModule.entries, g.artifact.name = g.summary.artifactName "rs") ∧
    (typeAndModule.commit []).1 = ["demo.A.g.rs", "demo.A.B.g.rs"] ∧
    ¬ (typeAndModule.commit []).1.Pairwise (· < ·) := by
  have hsorted : Generated.Sorted typeAndModule.entries := by
    unfold Generated.Sorted
    decide
  have hnames : ∀ g ∈ typeAndModule.entries, g.artifact.name = g.summary.artifactName "rs" := by decide
  obtain ⟨-, -, horder⟩ := removed_order hsorted hnames []
  refine ⟨hsorted, hnames, by decide, fun h => ?_⟩
  exact absurd (horder.1 h "demo.A" (by decide) ".B" (by decide) (by decide)) (by decide)

end Cache

end DisplayGen
