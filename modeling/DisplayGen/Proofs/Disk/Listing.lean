import DisplayGen.Proofs.Disk.Alike
import Mathlib.Data.List.Nodup
import Mathlib.Data.String.Basic

/-!
# The files below a place

`Disk.Proper d`: the disk lists no place twice, and not the root. Every operation leaves it so.

On proper disks that are alike, the same files are below a place, and in the same order
(`Alike.filesBelow`): neither what they hold nor when they were put there makes a difference.
-/

namespace DisplayGen

namespace Disk

variable {d d' : Disk} {p q : List String} {path : String}

/-! ## The order of places -/

theorem placeLe_total (p q : List String) : (placeLe p q || placeLe q p) = true := by
  induction p generalizing q with
  | nil => rfl
  | cons a p ih =>
    cases q with
    | nil => rfl
    | cons b q =>
      unfold placeLe
      by_cases hab : a = b
      · rw [if_pos hab, if_pos hab.symm]
        exact ih q
      · rw [if_neg hab, if_neg (Ne.symm hab), Bool.or_eq_true, decide_eq_true_iff, decide_eq_true_iff]
        exact lt_or_gt_of_ne hab

theorem placeLe_trans {p q r : List String} (h : placeLe p q = true) (h' : placeLe q r = true) :
    placeLe p r = true := by
  induction p generalizing q r with
  | nil => rfl
  | cons a p ih =>
    cases q with
    | nil => cases h
    | cons b q =>
      cases r with
      | nil => cases h'
      | cons c r =>
        unfold placeLe at h h' ⊢
        split at h
        · subst a
          split at h'
          · rename_i hbc
            rw [if_pos hbc]
            exact ih h h'
          · rename_i hbc
            rw [if_neg hbc]
            exact h'
        · have hab := of_decide_eq_true h
          split at h'
          · subst c
            rw [if_neg hab.ne]
            exact h
          · have hac := hab.trans (of_decide_eq_true h')
            rw [if_neg hac.ne]
            exact decide_eq_true hac

theorem placeLe_antisymm {p q : List String} (h : placeLe p q = true) (h' : placeLe q p = true) :
    p = q := by
  induction p generalizing q with
  | nil =>
    cases q with
    | nil => rfl
    | cons b q => cases h'
  | cons a p ih =>
    cases q with
    | nil => cases h
    | cons b q =>
      unfold placeLe at h h'
      by_cases hab : a = b
      · subst b
        rw [if_pos rfl] at h h'
        rw [ih h h']
      · rw [if_neg hab] at h
        rw [if_neg (Ne.symm hab)] at h'
        exact absurd (of_decide_eq_true h') (lt_asymm (of_decide_eq_true h))

/-! ## Disks that list each place once -/

/-- What stands at a place is listed for it, unless it is the root. -/
theorem mem_nodes_of_node? {n : DiskNode} (h : d.node? q = some n) (hq : q ≠ []) : (q, n) ∈ d.nodes := by
  unfold node? at h
  rw [if_neg (by simpa using hq)] at h
  obtain ⟨before, after, hnodes, -⟩ := List.lookup_eq_some_iff.1 h
  rw [hnodes]
  exact List.mem_append_right _ (List.mem_cons_self ..)

/-- No place is listed twice, and the root is not listed. -/
structure Proper (d : Disk) : Prop where
  nodup : (d.nodes.map Prod.fst).Nodup
  root : [] ∉ d.nodes.map Prod.fst

namespace Proper

theorem filter (h : d.Proper) (keep : List String × DiskNode → Bool) :
    ({ d with nodes := d.nodes.filter keep } : Disk).Proper :=
  have hsublist := List.filter_sublist.map Prod.fst
  ⟨h.nodup.sublist hsublist, fun hroot => h.root (hsublist.subset hroot)⟩

theorem setNode (h : d.Proper) (hp : p ≠ []) (n : DiskNode) : (d.setNode p n).Proper := by
  have hothers := h.filter fun m => m.1 ≠ p
  refine ⟨List.nodup_cons.2 ⟨?_, hothers.nodup⟩, List.not_mem_cons_of_ne_of_not_mem hp.symm hothers.root⟩
  rw [List.mem_map]
  rintro ⟨m, hm, heq⟩
  exact of_decide_eq_true (List.mem_filter.1 hm).2 heq

theorem put {content : FileContent} (h : d.Proper) (hput : d.put path content = .ok d') : d'.Proper := by
  obtain ⟨p, -, hnode, rfl⟩ := put_ok hput
  exact h.setNode (ne_nil_of_node? hnode) _

theorem removeFile (h : d.Proper) (hremove : d.removeFile path = .ok d') : d'.Proper := by
  obtain ⟨p, content, written, -, -, rfl⟩ := removeFile_ok hremove
  exact h.filter _

theorem removeAll (h : d.Proper) (path : String) : (d.removeAll path).Proper := by
  unfold Disk.removeAll
  split
  · exact h
  · exact h.filter _

theorem makeDirs (h : d.Proper) (hmake : d.makeDirs path = .ok d') : d'.Proper := by
  refine makeDirs_ok (R := fun d d' => d.Proper → d'.Proper) (fun d h => h)
    (fun hfirst hsecond h => hsecond (hfirst h)) (fun hdir h => ?_) hmake h
  obtain ⟨p, hp, -, rfl⟩ := makeDir_ok hdir
  exact h.setNode hp _

/-- What is listed for a place stands there. -/
theorem node?_eq_some (h : d.Proper) {n : DiskNode} (hn : (q, n) ∈ d.nodes) : d.node? q = some n := by
  have hkey := List.mem_map_of_mem (f := Prod.fst) hn
  have hq : q ≠ [] := fun heq => h.root (heq ▸ hkey)
  obtain ⟨before, after, hnodes⟩ := List.append_of_mem hn
  unfold node?
  rw [if_neg (by simpa using hq), List.lookup_eq_some_iff]
  refine ⟨before, after, hnodes, fun m hm => bne_iff_ne.2 fun heq => ?_⟩
  have hnodup := h.nodup
  rw [hnodes, List.map_append, List.map_cons] at hnodup
  exact (List.nodup_append.1 hnodup).2.2 m.1 (List.mem_map_of_mem hm) q (List.mem_cons_self ..) heq.symm

end Proper

/-! ## Files -/

theorem mem_filesBelow :
    q ∈ d.filesBelow p ↔ p <+: q ∧ ∃ content written, (q, .file content written) ∈ d.nodes := by
  unfold filesBelow
  rw [List.mem_mergeSort, List.mem_filterMap]
  constructor
  · rintro ⟨⟨place, n⟩, hn, hnode⟩
    cases n with
    | directory => cases hnode
    | file content written =>
      dsimp only at hnode
      split at hnode
      · rename_i hbelow
        cases hnode
        exact ⟨List.isPrefixOf_iff_prefix.1 hbelow, content, written, hn⟩
      · cases hnode
  · rintro ⟨hbelow, content, written, hn⟩
    exact ⟨_, hn, if_pos (List.isPrefixOf_iff_prefix.2 hbelow)⟩

namespace Proper

theorem mem_filesBelow (h : d.Proper) : q ∈ d.filesBelow p ↔ p <+: q ∧ d.HasFile q := by
  rw [Disk.mem_filesBelow]
  refine and_congr_right fun _ => exists_congr fun content => exists_congr fun written => ?_
  refine ⟨h.node?_eq_some, fun hnode => mem_nodes_of_node? hnode ?_⟩
  exact HasFile.ne_nil ⟨content, written, hnode⟩

theorem nodup_filesBelow (h : d.Proper) (p : List String) : (d.filesBelow p).Nodup := by
  unfold filesBelow
  rw [(List.mergeSort_perm _ _).nodup_iff]
  unfold List.Nodup
  rw [List.pairwise_filterMap]
  refine (List.pairwise_map.1 h.nodup).imp ?_
  rintro ⟨q, n⟩ ⟨q', n'⟩ hne place hplace place' hplace'
  cases n with
  | directory => cases hplace
  | file content written =>
    cases n' with
    | directory => cases hplace'
    | file content' written' =>
      dsimp only at hplace hplace'
      split at hplace
      · split at hplace'
        · cases hplace
          cases hplace'
          exact hne
        · cases hplace'
      · cases hplace

end Proper

theorem pairwise_filesBelow (d : Disk) (p : List String) :
    (d.filesBelow p).Pairwise fun q q' => placeLe q q' = true := by
  refine List.pairwise_mergeSort ?_ placeLe_total _
  exact fun _ _ _ => placeLe_trans

/-- The files below a place are the same on disks that are alike. -/
theorem Alike.filesBelow (h : d.Alike d') (hd : d.Proper) (hd' : d'.Proper) (p : List String) :
    d'.filesBelow p = d.filesBelow p := by
  have hperm : (d'.filesBelow p).Perm (d.filesBelow p) := by
    rw [List.perm_ext_iff_of_nodup (hd'.nodup_filesBelow p) (hd.nodup_filesBelow p)]
    intro q
    rw [hd'.mem_filesBelow, hd.mem_filesBelow, h.hasFile]
  exact hperm.eq_of_pairwise (fun _ _ _ _ => placeLe_antisymm) (d'.pairwise_filesBelow p)
    (d.pairwise_filesBelow p)

end Disk

end DisplayGen
