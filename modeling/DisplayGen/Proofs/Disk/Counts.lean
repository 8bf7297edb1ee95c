import DisplayGen.Project
import DisplayGen.Proofs.Crate.Load
import DisplayGen.Proofs.Disk.Frame
import DisplayGen.Proofs.Disk.Listing
import DisplayGen.Proofs.Emission.Counts

/-!
# Disks up to counts

`Disk.UpToCounts d d'`: at each place of the two disks stands the same, but perhaps for the counts that texts
tell.

* The operations fail alike on such disks, or leave disks that are the same up to counts again
  (`UpToCounts.put`, `UpToCounts.respected`, `UpToCounts.removeAll`). Where a text is there already but for
  its count, it makes no difference whether it is written (`UpToCounts.write_same`).
* Nobody who loads the sources of a project can tell the disks apart (`UpToCounts.loadCrate`).
-/

namespace DisplayGen

/-- The same bytes, or texts that are the same up to their counts. -/
inductive FileContent.UpToCount : FileContent → FileContent → Prop where
  | text {s t : String} (h : Text.UpToCount s t) : UpToCount (.text s) (.text t)
  | bytes (bs : List Nat) : UpToCount (.bytes bs) (.bytes bs)

theorem FileContent.UpToCount.refl (c : FileContent) : c.UpToCount c := by
  cases c with
  | text s => exact .text (.refl s)
  | bytes bs => exact .bytes bs

theorem FileContent.UpToCount.symm {c c' : FileContent} (h : c.UpToCount c') : c'.UpToCount c := by
  cases h with
  | text h => exact .text h.symm
  | bytes bs => exact .bytes bs

namespace Disk

variable {d d' d₁ d₁' : Disk} {p q : List String} {path : String} {content content' : FileContent}

/-- The root is the same, and what is read at a place is the same on both disks up to counts. Both disks are
proper. -/
structure UpToCounts (d d' : Disk) : Prop where
  root : d'.root = d.root
  contentAt : ∀ q, Agree FileContent.UpToCount (d.contentAt q) (d'.contentAt q)
  left : d.Proper
  right : d'.Proper

/-- What stands at a place shows in how reading there ends. -/
theorem map_isDirectory (d : Disk) (q : List String) : (d.node? q).map DiskNode.isDirectory =
    match d.contentAt q with
    | .ok _ => some false
    | .error .isADirectory => some true
    | .error _ => none := by
  unfold contentAt
  cases d.node? q with
  | none => rfl
  | some n =>
    cases n with
    | directory => rfl
    | file content written => rfl

theorem contentAt_congr (h : d'.node? q = d.node? q) : d'.contentAt q = d.contentAt q := by
  unfold contentAt
  rw [h]

theorem contentAt_none (h : d.node? q = none) : d.contentAt q = .error .notFound := by
  unfold contentAt
  rw [h]

/-- Making directories changes no files. -/
theorem makeDirs_contentAt (h : d.makeDirs path = .ok d') (hcontent : d'.contentAt q = .ok content) :
    d.contentAt q = .ok content := by
  have hfile : d.HasFile q :=
    ((makeDirs_moves h).origin q (hasFile_iff.2 ⟨_, hcontent⟩)).resolve_right not_false
  obtain ⟨old, written, hnode⟩ := hfile
  have hkept := (makeDirs_leaves h).files q old written trivial hnode
  rw [contentAt_ok.2 ⟨written, hkept⟩] at hcontent
  cases hcontent
  exact contentAt_ok.2 ⟨written, hnode⟩

/-- What is left when all below a place is removed. -/
theorem node?_removeBelow (d : Disk) (p q : List String) :
    ({ d with nodes := d.nodes.filter fun n => !p.isPrefixOf n.1 } : Disk).node? q =
      if q ≠ [] ∧ p <+: q then none else d.node? q := by
  unfold node?
  by_cases hq : q = []
  · subst q
    rfl
  have hempty : q.isEmpty = false := by simpa using hq
  rw [hempty, if_neg Bool.false_ne_true, if_neg Bool.false_ne_true]
  split
  · rename_i hbelow
    rw [List.lookup_eq_none_iff]
    intro n hn
    refine bne_iff_ne.2 fun heq => ?_
    have hkept := (List.mem_filter.1 hn).2
    rw [← heq, Bool.not_eq_true', Bool.eq_false_iff, Ne, List.isPrefixOf_iff_prefix] at hkept
    exact hkept hbelow.2
  · rename_i hother
    refine lookup_filter_of_keep (fun n => ?_) _
    rw [Bool.not_eq_true', Bool.eq_false_iff, Ne, List.isPrefixOf_iff_prefix]
    exact fun hbelow => hother ⟨hq, hbelow⟩

namespace UpToCounts

theorem refl (h : d.Proper) : d.UpToCounts d := by
  refine ⟨rfl, fun q => ?_, h, h⟩
  cases d.contentAt q with
  | error e => exact .error e
  | ok c => exact .ok (.refl c)

theorem symm (h : d.UpToCounts d') : d'.UpToCounts d := by
  refine ⟨h.root.symm, fun q => ?_, h.right, h.left⟩
  rcases (h.contentAt q).cases with ⟨e, hc, hc'⟩ | ⟨c, c', hc, hc', hcount⟩
  · rw [hc, hc']
    exact .error e
  · rw [hc, hc']
    exact .ok hcount.symm

theorem alike (h : d.UpToCounts d') : d.Alike d' := by
  refine ⟨h.root, fun q => ?_⟩
  rw [map_isDirectory, map_isDirectory]
  rcases (h.contentAt q).cases with ⟨e, hc, hc'⟩ | ⟨c, c', hc, hc', -⟩
  · rw [hc, hc']
  · rw [hc, hc']

/-- On disks that are alike, it is enough to compare the files. -/
theorem of_alike (h : d.Alike d') (hleft : d.Proper) (hright : d'.Proper)
    (hfiles : ∀ q c c', d.contentAt q = .ok c → d'.contentAt q = .ok c' → c.UpToCount c') :
    d.UpToCounts d' := by
  refine ⟨h.root, fun q => ?_, hleft, hright⟩
  have hq := hfiles q
  unfold Disk.contentAt at hq ⊢
  rcases h.node_cases q with ⟨hd, hd'⟩ | ⟨hd, hd'⟩ | ⟨c, written, c', written', hd, hd'⟩
  · rw [hd, hd']
    exact .error _
  · rw [hd, hd']
    exact .error _
  · rw [hd, hd'] at hq ⊢
    exact .ok (hq c c' rfl rfl)

/-- Places at which nothing has changed need not be compared again. -/
theorem touch (h : d.UpToCounts d') (hroot : d₁.root = d.root) (hroot' : d₁'.root = d'.root)
    (hleft : d₁.Proper) (hright : d₁'.Proper)
    (hplaces : ∀ q, (d₁.node? q = d.node? q ∧ d₁'.node? q = d'.node? q) ∨
      Agree FileContent.UpToCount (d₁.contentAt q) (d₁'.contentAt q)) : d₁.UpToCounts d₁' := by
  refine ⟨by rw [hroot, hroot', h.root], fun q => ?_, hleft, hright⟩
  rcases hplaces q with ⟨hq, hq'⟩ | hq
  · rw [contentAt_congr hq, contentAt_congr hq']
    exact h.contentAt q
  · exact hq

theorem setNode (h : d.UpToCounts d') (hp : p ≠ []) (hcontent : content.UpToCount content')
    (written written' : Bool) :
    (d.setNode p (.file content written)).UpToCounts (d'.setNode p (.file content' written')) := by
  refine h.touch rfl rfl (h.left.setNode hp _) (h.right.setNode hp _) fun q => ?_
  by_cases hq : q = p
  · subst q
    rw [contentAt_ok.2 ⟨written, node?_setNode_self d hp⟩,
      contentAt_ok.2 ⟨written', node?_setNode_self d' hp⟩]
    exact .inr (.ok hcontent)
  · exact .inl ⟨node?_setNode_of_ne d hq, node?_setNode_of_ne d' hq⟩

/-! ## Operations -/

theorem put (h : d.UpToCounts d') (path : String) (hcontent : content.UpToCount content') :
    Agree UpToCounts (d.put path content) (d'.put path content') := by
  refine (h.alike.put path content content').imp fun d₁ d₁' hx hy _ => ?_
  obtain ⟨p, hlocate, hnode, rfl⟩ := put_ok hx
  obtain ⟨p', hlocate', -, rfl⟩ := put_ok hy
  rw [h.alike.locate, hlocate] at hlocate'
  cases hlocate'
  exact h.setNode (ne_nil_of_node? hnode) hcontent true true

theorem removeFile (h : d.UpToCounts d') (path : String) :
    Agree UpToCounts (d.removeFile path) (d'.removeFile path) := by
  refine (h.alike.removeFile path).imp fun d₁ d₁' hx hy _ => ?_
  have hleft := h.left.removeFile hx
  have hright := h.right.removeFile hy
  obtain ⟨p, content, written, hlocate, hnode, rfl⟩ := removeFile_ok hx
  obtain ⟨p', content', written', hlocate', -, rfl⟩ := removeFile_ok hy
  rw [h.alike.locate, hlocate] at hlocate'
  cases hlocate'
  refine h.touch rfl rfl hleft hright fun q => ?_
  by_cases hq : q = p
  · subst q
    have hp : p ≠ [] := HasFile.ne_nil ⟨content, written, hnode⟩
    rw [contentAt_none (node?_filter_self d hp), contentAt_none (node?_filter_self d' hp)]
    exact .inr (.error _)
  · exact .inl ⟨node?_filter_of_ne d hq, node?_filter_of_ne d' hq⟩

theorem makeDirs (h : d.UpToCounts d') (path : String) :
    Agree UpToCounts (d.makeDirs path) (d'.makeDirs path) := by
  refine (h.alike.makeDirs path).imp fun d₁ d₁' hx hy halike => ?_
  refine of_alike halike (h.left.makeDirs hx) (h.right.makeDirs hy) fun q c c' hc hc' => ?_
  have hcontent := h.contentAt q
  rw [makeDirs_contentAt hx hc, makeDirs_contentAt hy hc'] at hcontent
  cases hcontent with
  | ok hcount => exact hcount

theorem removeAll (h : d.UpToCounts d') (path : String) :
    (d.removeAll path).UpToCounts (d'.removeAll path) := by
  have hleft := h.left.removeAll path
  have hright := h.right.removeAll path
  unfold Disk.removeAll at hleft hright ⊢
  rw [h.alike.locate] at hright ⊢
  cases hlocate : d.locate path with
  | error e => exact h
  | ok p =>
    rw [hlocate] at hleft hright
    refine h.touch rfl rfl hleft hright fun q => ?_
    have hnode := node?_removeBelow d p q
    have hnode' := node?_removeBelow d' p q
    split at hnode
    · rename_i hbelow
      rw [if_pos hbelow] at hnode'
      rw [contentAt_none hnode, contentAt_none hnode']
      exact .inr (.error _)
    · rename_i hother
      rw [if_neg hother] at hnode'
      exact .inl ⟨hnode, hnode'⟩

theorem respected : Respected UpToCounts where
  contains h := h.alike.contains
  write h path _ := h.put path (.refl _)
  removeFile h := h.removeFile
  makeDirs h := h.makeDirs

/-- Where a file holds the text already up to its count, writing it makes no difference. -/
theorem write_same (h : d.UpToCounts d') {s t : String} (hread : d.readText path = .ok s)
    (hcount : Text.UpToCount s t) : ∃ d₁', d'.write path t = .ok d₁' ∧ d.UpToCounts d₁' := by
  obtain ⟨p, written, hlocate, hnode⟩ := readText_ok.1 hread
  have hfile : d.HasFile p := ⟨_, written, hnode⟩
  rw [← h.alike.locate] at hlocate
  obtain ⟨d₁', hwrite, halike⟩ := Alike.write_file t hlocate (h.alike.hasFile.2 hfile)
  refine ⟨d₁', hwrite, of_alike (h.alike.trans halike) h.left (h.right.put hwrite) ?_⟩
  intro q c c' hc hc'
  obtain ⟨p', hlocate', -, rfl⟩ := put_ok hwrite
  rw [hlocate] at hlocate'
  cases hlocate'
  by_cases hq : q = p
  · subst q
    rw [contentAt_ok.2 ⟨written, hnode⟩] at hc
    rw [contentAt_ok.2 ⟨true, node?_setNode_self d' hfile.ne_nil⟩] at hc'
    cases hc
    cases hc'
    exact .text hcount
  · have hcontent := h.contentAt q
    rw [contentAt_congr (node?_setNode_of_ne d' hq)] at hc'
    rw [hc, hc'] at hcontent
    cases hcontent with
    | ok hcount => exact hcount

/-! ## Sources -/

theorem textAt (h : d.UpToCounts d') (q : List String) :
    Agree Text.UpToCount (d.textAt q) (d'.textAt q) := by
  unfold Disk.textAt
  rcases (h.contentAt q).cases with ⟨e, hc, hc'⟩ | ⟨c, c', hc, hc', hcount⟩
  · rw [hc, hc']
    exact .error e
  · rw [hc, hc']
    cases hcount with
    | text hcount => exact .ok hcount
    | bytes bs => exact .error _

theorem addFile (h : d.UpToCounts d') (c : Crate) (dir : String) (place file : List String) :
    c.addFile d' dir place file = c.addFile d dir place file := by
  unfold Crate.addFile
  rcases (h.textAt place).cases with ⟨e, ht, ht'⟩ | ⟨s, t, ht, ht', hcount⟩
  · rw [ht, ht']
  · rw [ht, ht']
    dsimp only
    unfold Crate.add
    rw [hcount.read?_eq]

theorem load (h : d.UpToCounts d') (name dir : String) : Crate.load d' name dir = Crate.load d name dir :=
  Crate.load_of_alike h.alike h.left h.right fun c => h.addFile c dir

/-- The sources of a project are read as the same crate. -/
theorem loadCrate (h : d.UpToCounts d') (p : Project) : p.loadCrate d' = p.loadCrate d := by
  unfold Project.loadCrate
  rw [h.load]

end UpToCounts

end Disk

end DisplayGen
