import DisplayGen.Proofs.Disk.Files
import DisplayGen.Proofs.Disk.Path

/-!
# What a change leaves as it is

`Disk.Changes d d' touched made`: what stands at the places in `touched` may differ on the two disks, at
those in `made` there may be a directory where nothing was, and at all others stands what stood there.

* Writing or removing a file touches the place to which its path leads (`put_changes`,
  `removeFile_changes`), and makes no directories.
* Making a directory makes those that its path leads through (`makeDirs_changes`). After that the path
  leads to a directory, and making it again changes nothing (`makeDirs_of_hasDirectory`).
-/

namespace DisplayGen

namespace Disk

variable {d d' d'' : Disk} {p q : List String} {path dir name : String} {parts : List PathPart}

/-- All places are as they were but those in `touched`, and those in `made`, which have become directories.
-/
structure Changes (d d' : Disk) (touched made : List String → Prop) : Prop where
  later : d.Later d'
  /-- A directory that was none before has been made. -/
  directory : ∀ q, d'.node? q = some .directory → d.node? q = some .directory ∨ made q
  node : ∀ q, d'.node? q = d.node? q ∨ touched q ∨
    made q ∧ d.node? q = none ∧ d'.node? q = some .directory

namespace Changes

variable {touched made touched' made' : List String → Prop}

theorem refl (d : Disk) (touched made : List String → Prop) : d.Changes d touched made :=
  ⟨.refl d, fun _ h => .inl h, fun _ => .inl rfl⟩

theorem mono (h : d.Changes d' touched made) (htouched : ∀ q, touched q → touched' q)
    (hmade : ∀ q, made q → made' q) : d.Changes d' touched' made' where
  later := h.later
  directory q hq := (h.directory q hq).imp_right (hmade q)
  node q := (h.node q).imp_right (Or.imp (htouched q) (And.imp_left (hmade q)))

theorem trans (h : d.Changes d' touched made) (h' : d'.Changes d'' touched' made') :
    d.Changes d'' (fun q => touched q ∨ touched' q) fun q => made q ∨ made' q where
  later := h.later.trans h'.later
  directory q hq := by
    rcases h'.directory q hq with hq | hq
    · exact (h.directory q hq).imp_right .inl
    · exact .inr (.inr hq)
  node q := by
    rcases h'.node q with hsame' | htouched' | ⟨hmade', hnone', hnew'⟩
    · rw [hsame']
      exact (h.node q).imp_right (Or.imp .inl (And.imp_left .inl))
    · exact .inr (.inl (.inr htouched'))
    · rcases h.node q with hsame | htouched | ⟨-, -, hnew⟩
      · rw [hsame] at hnone'
        exact .inr (.inr ⟨.inr hmade', hnone', hnew'⟩)
      · exact .inr (.inl (.inl htouched))
      · rw [hnew] at hnone'
        cases hnone'

/-- As long as no directories are made, paths lead where they led. -/
theorem locate_iff (h : d.Changes d' touched fun _ => False) :
    d'.locate path = .ok q ↔ d.locate path = .ok q := by
  have hback : d'.Later d :=
    ⟨h.later.root.symm, fun q hq => (h.directory q hq).resolve_right not_false⟩
  exact ⟨hback.locate, h.later.locate⟩

/-- A file stays as it is at a place that is not touched. -/
theorem node_of_not_touched (h : d.Changes d' touched made) (hq : ¬ touched q) {n : DiskNode}
    (hnode : d.node? q = some n) : d'.node? q = some n := by
  rcases h.node q with hsame | htouched | ⟨-, hnone, -⟩
  · rw [hsame, hnode]
  · exact absurd htouched hq
  · rw [hnone] at hnode
    cases hnode

theorem textAt_of_not_touched (h : d.Changes d' touched made) (hq : ¬ touched q) {text : String}
    (htext : d.textAt q = .ok text) : d'.textAt q = .ok text := by
  unfold textAt contentAt at htext ⊢
  cases hnode : d.node? q with
  | none =>
    rw [hnode] at htext
    cases htext
  | some n =>
    rw [h.node_of_not_touched hq hnode, ← hnode]
    exact htext

end Changes

theorem contains_iff : d.contains path = true ↔ ∃ q n, d.locate path = .ok q ∧ d.node? q = some n := by
  unfold contains find
  cases d.locate path with
  | error e => simp
  | ok q =>
    cases hnode : d.node? q with
    | none => simp [hnode]
    | some n => simp [hnode]

/-- What a path leads to is not found any more only if it was touched. -/
theorem Changes.contains_eq {touched : List String → Prop} (h : d.Changes d' touched fun _ => False)
    (hpath : ∀ q, d'.locate path = .ok q → ¬ touched q) : d'.contains path = d.contains path := by
  rw [Bool.eq_iff_iff, contains_iff, contains_iff]
  refine exists_congr fun q => exists_congr fun n => ?_
  rw [h.locate_iff]
  refine and_congr_right fun hq => ?_
  rcases h.node q with hsame | htouched | ⟨hmade, -⟩
  · rw [hsame]
  · exact absurd htouched (hpath q (h.locate_iff.2 hq))
  · exact hmade.elim

/-- The path leads to the file to which it led, and that has been left alone: it holds what it held, and has
not been written. -/
def Spares (d d' : Disk) (path : String) : Prop :=
  ∃ q, d.locate path = .ok q ∧ d'.locate path = .ok q ∧ d.HasFile q ∧ d'.node? q = d.node? q

/-! ## Files -/

/-- A change at one place, where no directory comes. -/
theorem changes_of_turns {new : Option DiskNode} (h : d.Turns d' p new) (hnew : new ≠ some .directory) :
    d.Changes d' (· = p) fun _ => False where
  later := h.leaves.later
  directory q hq := by
    by_cases heq : q = p
    · rw [heq, h.node] at hq
      exact absurd hq hnew
    · exact .inl ((h.others q heq).symm.trans hq)
  node q := by
    by_cases heq : q = p
    · exact .inr (.inl heq)
    · exact .inl (h.others q heq)

theorem put_changes {content : FileContent} (h : d.put path content = .ok d') :
    d.Changes d' (fun q => d'.locate path = .ok q) fun _ => False := by
  obtain ⟨p, hlocate, hturns⟩ := put_turns h
  refine (changes_of_turns hturns (by simp)).mono ?_ fun _ h => h
  rintro q rfl
  exact hturns.locate hlocate

theorem removeFile_changes (h : d.removeFile path = .ok d') :
    d.Changes d' (fun q => d'.locate path = .ok q) fun _ => False := by
  obtain ⟨p, hlocate, hturns⟩ := removeFile_turns h
  refine (changes_of_turns hturns (by simp)).mono ?_ fun _ h => h
  rintro q rfl
  exact hturns.locate hlocate

/-- After a file is removed, its path leads to nothing, and neither does any that led to nothing before. -/
theorem contains_removeFile (h : d.removeFile path = .ok d') : d'.contains path = false ∧
    ∀ other, d.contains other = false → d'.contains other = false := by
  have hchanges := removeFile_changes h
  obtain ⟨p, hlocate, hturns⟩ := removeFile_turns h
  constructor
  · rw [Bool.eq_false_iff, Ne, contains_iff]
    rintro ⟨q, n, hq, hn⟩
    rw [hturns.locate hlocate] at hq
    cases hq
    rw [hturns.node] at hn
    cases hn
  · intro other hnone
    rw [Bool.eq_false_iff, Ne, contains_iff] at hnone ⊢
    rintro ⟨q, n, hq, hn⟩
    by_cases heq : q = p
    · rw [heq, hturns.node] at hn
      cases hn
    · exact hnone ⟨q, n, hchanges.locate_iff.1 hq, (hturns.others q heq).symm.trans hn⟩

/-! ## Directories -/

/-- The path as it is taken when a directory is made. -/
def unstroked (path : String) : String :=
  if path.endsWith "/" then (path.dropEnd 1).toString else path

theorem makeDirs_eq (d : Disk) (path : String) : d.makeDirs path =
    match below? d.root (unstroked path) with
    | some parts => makeDirsFrom (parts.length + 1) d parts
    | none => .error .notFound := rfl

theorem toList_unstroked {a : List Char} (h : path.toList = a ++ ['/']) :
    (unstroked path).toList = a := by
  have hend : path.endsWith "/" = true := by
    rw [← String.endsWith_toSlice, String.Slice.endsWith_string_iff, String.copy_toSlice, h]
    exact List.suffix_append a _
  have hdrop : (path.dropEnd 1).toString.toList = path.toList.take (path.toList.length - 1) := by
    rw [← String.dropEnd_toSlice]
    refine String.Slice.toList_copy_dropEnd.trans ?_
    rw [String.copy_toSlice]
  unfold unstroked
  rw [if_pos hend, hdrop, h]
  simp

theorem unstroked_eq (h : ∀ a, path.toList ≠ a ++ ['/']) : unstroked path = path := by
  unfold unstroked
  split
  · rename_i hend
    rw [← String.endsWith_toSlice, String.Slice.endsWith_string_iff, String.copy_toSlice] at hend
    obtain ⟨a, ha⟩ := hend
    exact absurd ha.symm (h a)
  · rfl

/-- On disks with the given root, the path leads to the place, or through it. -/
def LeadsThrough (root path : String) (q : List String) : Prop :=
  ∃ parts front, below? root (unstroked path) = some parts ∧ front <+: parts ∧ q = landing [] front

/-- The path leads to a directory. -/
def HasDirectory (d : Disk) (path : String) : Prop :=
  ∃ parts, below? d.root (unstroked path) = some parts ∧ d.leadsToDirectory parts = true

theorem leadsToDirectory_iff : d.leadsToDirectory parts = true ↔
    ∃ q, d.follow [] parts = .ok q ∧ d.node? q = some .directory := by
  unfold leadsToDirectory
  cases d.follow [] parts with
  | error e => simp
  | ok q => simp

theorem HasDirectory.later (h : d.HasDirectory path) (hd : d.Later d') : d'.HasDirectory path := by
  obtain ⟨parts, hparts, hleads⟩ := h
  obtain ⟨q, hq, hnode⟩ := leadsToDirectory_iff.1 hleads
  refine ⟨parts, by rw [hd.root, hparts], ?_⟩
  exact leadsToDirectory_iff.2 ⟨q, hd.follow hq, hd.directory q hnode⟩

theorem makeDir_changes (h : d.makeDir parts = .ok d') :
    d.Changes d' (fun _ => False) (· = landing [] parts) := by
  obtain ⟨front, n, parent, rfl, hparent, -, hnode, rfl⟩ := makeDir_made h
  have hturns := turns_setNode (d := d) (p := parent ++ [n]) (by simp [hnode]) .directory
  have hlanding : landing [] (front ++ [.name n]) = parent ++ [n] := by
    rw [landing_append, ← follow_landing hparent]
    rfl
  rw [hlanding]
  refine ⟨hturns.leaves.later, fun q hq => ?_, fun q => ?_⟩
  · by_cases heq : q = parent ++ [n]
    · exact .inr heq
    · exact .inl ((hturns.others q heq).symm.trans hq)
  · by_cases heq : q = parent ++ [n]
    · exact .inr (.inr ⟨heq, heq ▸ hnode, heq ▸ hturns.node⟩)
    · exact .inl (hturns.others q heq)

/-- A directory that was made is there. -/
theorem leadsToDirectory_makeDir (h : d.makeDir parts = .ok d') : d'.leadsToDirectory parts = true := by
  have hlater := (makeDir_leaves h).later
  obtain ⟨front, n, parent, rfl, hparent, hcheck, -, rfl⟩ := makeDir_made h
  refine leadsToDirectory_iff.2 ⟨parent ++ [n], ?_, node?_setNode_self d (by simp)⟩
  rw [follow_append, hlater.follow hparent]
  change Disk.follow _ parent [.name n] = _
  unfold follow
  rw [hlater.checkDirectory hcheck]
  rfl

theorem leadsToDirectory_makeDirsFrom {fuel : Nat} (h : makeDirsFrom fuel d parts = .ok d') :
    d'.leadsToDirectory parts = true := by
  cases fuel with
  | zero => cases h
  | succ fuel =>
    unfold makeDirsFrom at h
    split at h
    · rename_i hdir
      cases h
      exact leadsToDirectory_makeDir hdir
    · split at h
      · cases h
      · split at h
        · rename_i hdir
          cases h
          exact leadsToDirectory_makeDir hdir
        · split at h
          · rename_i hleads
            cases h
            exact hleads
          · cases h
    · split at h
      · rename_i hleads
        cases h
        exact hleads
      · cases h

/-- After a directory is made, its path leads to one. -/
theorem hasDirectory_makeDirs (h : d.makeDirs path = .ok d') : d'.HasDirectory path := by
  have hroot := (makeDirs_leaves h).later.root
  rw [makeDirs_eq] at h
  split at h
  · rename_i parts hparts
    exact ⟨parts, by rw [hroot, hparts], leadsToDirectory_makeDirsFrom h⟩
  · cases h

/-- Where the parts lead to a directory, none is made. -/
theorem makeDir_of_leadsToDirectory (hroot : .root ∉ parts) (h : d.leadsToDirectory parts = true) :
    d.makeDir parts = .error .alreadyExists := by
  rcases List.eq_nil_or_concat parts with rfl | ⟨front, last, rfl⟩
  · rfl
  rw [List.concat_eq_append] at hroot h ⊢
  obtain ⟨q, hq, hnode⟩ := leadsToDirectory_iff.1 h
  rw [follow_append] at hq
  unfold makeDir
  rw [List.getLast?_concat, List.dropLast_concat]
  dsimp only
  cases hfront : d.follow [] front with
  | error e =>
    rw [hfront] at hq
    cases hq
  | ok parent =>
    rw [hfront] at hq
    replace hq : d.follow parent [last] = .ok q := hq
    dsimp only
    cases last with
    | root => exact absurd (List.mem_append_right front (List.mem_singleton_self _)) hroot
    | current | parent =>
      unfold follow at hq
      split at hq
      · rename_i hcheck
        rw [hcheck]
      · cases hq
    | name n =>
      unfold follow at hq
      split at hq
      · rename_i hcheck
        cases hq
        rw [hcheck]
        dsimp only
        rw [hnode]
      · cases hq

theorem makeDirs_of_hasDirectory (h : d.HasDirectory path) : d.makeDirs path = .ok d := by
  obtain ⟨parts, hparts, hleads⟩ := h
  have hroot : .root ∉ parts := by
    rcases below?_eq_some hparts with ⟨-, rfl⟩ | ⟨r, -, rfl⟩
    · exact List.not_mem_nil
    · rw [List.mem_append, not_or, List.mem_filterMap]
      refine ⟨?_, by split <;> simp⟩
      rintro ⟨piece, -, hpiece⟩
      exact innerPart?_ne_root piece hpiece
  rw [makeDirs_eq, hparts]
  dsimp only
  unfold makeDirsFrom
  rw [makeDir_of_leadsToDirectory hroot hleads]
  exact if_pos hleads

/-- Only directories that the path leads through are made, and none if it leads to one already. -/
theorem makeDirs_changes (h : d.makeDirs path = .ok d') : d.Changes d' (fun _ => False)
    fun q => ¬ d.HasDirectory path ∧ LeadsThrough d.root path q := by
  by_cases hthere : d.HasDirectory path
  · rw [makeDirs_of_hasDirectory hthere] at h
    cases h
    exact .refl d _ _
  rw [makeDirs_eq] at h
  split at h
  · rename_i parts hparts
    have hchanges : d.Changes d' (fun _ => False) fun q => ∃ front, front <+: parts ∧ q = landing [] front :=
      makeDirsFrom_ok (R := fun d d' => d.Changes d' _ _) (fun d => .refl d _ _)
        (fun h h' => (h.trans h').mono (fun _ h => h.elim id id) fun _ h => h.elim id id)
        (fun hfront hdir => (makeDir_changes hdir).mono (fun _ h => h) fun q hq => ⟨_, hfront, hq⟩) h
    refine hchanges.mono (fun _ h => h) ?_
    rintro q ⟨front, hfront, hq⟩
    exact ⟨hthere, parts, front, hparts, hfront, hq⟩
  · cases h

/-- What is in a directory has its name behind the path of the directory, and a stroke between them. -/
theorem toList_joinPaths_unstroked (hdir : dir ≠ "") (hname : '/' ∉ name.toList) :
    (joinPaths dir name).toList = (unstroked dir).toList ++ '/' :: name.toList := by
  have hrelative : name.startsWith "/" = false := by
    rw [Bool.eq_false_iff, Ne, ← String.startsWith_toSlice, String.Slice.startsWith_string_iff,
      String.copy_toSlice]
    rintro ⟨a, ha⟩
    exact hname (ha ▸ List.mem_cons_self ..)
  have hempty : dir.isEmpty = false := by
    rw [Bool.eq_false_iff, Ne, String.isEmpty_iff]
    exact hdir
  unfold joinPaths
  rw [hrelative, hempty, Bool.false_or, if_neg Bool.false_ne_true]
  split
  · rename_i hend
    rw [← String.endsWith_toSlice, String.Slice.endsWith_string_iff, String.copy_toSlice] at hend
    obtain ⟨a, ha⟩ := hend
    rw [toList_unstroked ha.symm, String.toList_append, ← ha]
    exact List.append_assoc ..
  · rename_i hend
    rw [unstroked_eq, String.toList_append, String.toList_append]
    · exact List.append_assoc ..
    · intro a ha
      refine hend ?_
      rw [← String.endsWith_toSlice, String.Slice.endsWith_string_iff, String.copy_toSlice, ha]
      exact List.suffix_append a _

/-- A directory that can be made, and in which the path of a plain name leads anywhere, is there already. -/
theorem hasDirectory_of_locate (hmade : d.makeDirs dir = .ok d') (hname : IsPlainName name)
    (h : d.locate (joinPaths dir name) = .ok q) : d.HasDirectory dir := by
  obtain ⟨parts, hbelow⟩ : ∃ parts, below? d.root (unstroked dir) = some parts := by
    rw [makeDirs_eq] at hmade
    split at hmade
    · exact ⟨_, ‹_›⟩
    · cases hmade
  refine ⟨parts, hbelow, leadsToDirectory_iff.2 ?_⟩
  rcases below?_eq_some hbelow with ⟨-, rfl⟩ | ⟨r, hr, rfl⟩
  · exact ⟨[], rfl, rfl⟩
  have hdir : dir ≠ "" := by
    rintro rfl
    have hempty : unstroked "" = "" := unstroked_eq fun a ha => by simp at ha
    rw [hempty] at hr
    simp at hr
  have hpath := toList_joinPaths_unstroked hdir hname.1
  rw [hr, List.append_assoc, List.cons_append] at hpath
  unfold locate at h
  split at h
  · rename_i parts' hbelow'
    rcases below?_eq_some hbelow' with ⟨heq, -⟩ | ⟨r', heq, rfl⟩
    · rw [heq] at hpath
      simp at hpath
    · rw [heq, List.append_cancel_left_eq] at hpath
      obtain ⟨-, rfl⟩ := List.cons.inj hpath
      rw [splitSlashes_append, splitSlashes_plain hname.1, List.filterMap_append,
        List.filterMap_cons_some (innerPart?_plain hname.2), List.append_assoc, follow_append] at h
      cases hfront : d.follow [] ((splitSlashes r).filterMap innerPart?) with
      | error e =>
        rw [hfront] at h
        cases h
      | ok parent =>
        rw [hfront] at h
        replace h : d.follow parent (.name _ :: _) = .ok q := h
        unfold follow at h
        split at h
        · rename_i hcheck
          refine ⟨parent, ?_, checkDirectory_ok.1 hcheck⟩
          rw [follow_append, hfront]
          change d.follow parent _ = _
          split
          · unfold follow
            rw [hcheck]
            rfl
          · rfl
        · cases h
  · cases h

end Disk

end DisplayGen
