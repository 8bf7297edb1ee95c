import DisplayGen.Disk.Basic
import DisplayGen.Proofs.Lists
import Mathlib.Data.List.Basic

/-!
# Laws of the disk

* `Disk.Later d d'`: what was a directory has stayed one, so that paths lead to where they led.
* `Disk.Turns d d' p new`: `new` stands at the place `p`, and elsewhere what stood there. This is what each
  operation that succeeds does, at the place that its path leads to (`put_turns`, `removeFile_turns`,
  `makeDir_turns`).
* `Disk.Leaves d d' P`: of `d`, the files at the places in `P` are in `d'` as they were. Each
  operation leaves all files but the one that its path leads to (`put_leaves`, `removeFile_leaves`),
  and making directories leaves all (`makeDirs_leaves`).
-/

namespace DisplayGen

namespace Disk

variable {d d' d'' : Disk} {place p q : List String} {path : String}

theorem checkDirectory_ok : d.checkDirectory place = .ok () ↔ d.node? place = some .directory := by
  unfold checkDirectory
  split
  · simp [*]
  · simp [*]
  · simp [*]

theorem readText_ok {s : String} : d.readText path = .ok s ↔
    ∃ place written, d.locate path = .ok place ∧
      d.node? place = some (.file (.text s) written) := by
  unfold readText textAt contentAt
  cases d.locate path with
  | error e => simp
  | ok place =>
    cases hnode : d.node? place with
    | none => simp [hnode]
    | some n =>
      cases n with
      | directory => simp [hnode]
      | file content written =>
        cases content with
        | text t => cases written <;> simp [hnode]
        | bytes bs => simp [hnode]

/-- The bytes of a file that holds a text are those of the text. -/
theorem readBytes_of_readText {s : String} (h : d.readText path = .ok s) :
    d.readBytes path = .ok (Text.encode s) := by
  obtain ⟨place, written, hlocate, hnode⟩ := readText_ok.1 h
  have hcontent : d.contentAt place = .ok (.text s) := by rw [contentAt, hnode]
  rw [readBytes, hlocate]
  dsimp only
  rw [hcontent]
  rfl

/-! ## Later disks -/

/-- The root is the same, and all directories of the one disk are directories of the other. -/
structure Later (d d' : Disk) : Prop where
  root : d'.root = d.root
  directory : ∀ place, d.node? place = some .directory → d'.node? place = some .directory

namespace Later

theorem refl (d : Disk) : d.Later d := ⟨rfl, fun _ h => h⟩

theorem trans (h : d.Later d') (h' : d'.Later d'') : d.Later d'' :=
  ⟨h'.root.trans h.root, fun place hplace => h'.directory place (h.directory place hplace)⟩

theorem checkDirectory (h : d.Later d') (hp : d.checkDirectory p = .ok ()) :
    d'.checkDirectory p = .ok () :=
  checkDirectory_ok.2 (h.directory p (checkDirectory_ok.1 hp))

theorem follow (h : d.Later d') {parts : List PathPart} (hp : d.follow p parts = .ok q) :
    d'.follow p parts = .ok q := by
  induction parts generalizing p with
  | nil => exact hp
  | cons part parts ih =>
    cases part with
    | root => exact ih hp
    | current | name n =>
      unfold Disk.follow at hp ⊢
      cases hcheck : d.checkDirectory p with
      | error e =>
        rw [hcheck] at hp
        cases hp
      | ok u =>
        rw [hcheck] at hp
        rw [h.checkDirectory hcheck]
        exact ih hp
    | parent =>
      unfold Disk.follow at hp ⊢
      cases hcheck : d.checkDirectory p with
      | error e =>
        rw [hcheck] at hp
        cases hp
      | ok u =>
        rw [hcheck] at hp
        rw [h.checkDirectory hcheck]
        dsimp only at hp ⊢
        split at hp
        · cases hp
        · rename_i hroot
          rw [if_neg hroot]
          exact ih hp

/-- A path that leads to a place still leads there. -/
theorem locate (h : d.Later d') (hp : d.locate path = .ok p) : d'.locate path = .ok p := by
  unfold Disk.locate at hp ⊢
  rw [h.root]
  cases hbelow : below? d.root path with
  | none =>
    rw [hbelow] at hp
    cases hp
  | some parts =>
    rw [hbelow] at hp
    exact h.follow hp

end Later

/-! ## Files that are left as they are -/

/-- The disk is a later one, and the files at the places in `P` are as they were. -/
structure Leaves (d d' : Disk) (P : List String → Prop) : Prop where
  later : d.Later d'
  files : ∀ place content written, P place → d.node? place = some (.file content written) →
    d'.node? place = some (.file content written)

namespace Leaves

variable {P Q : List String → Prop}

theorem refl (d : Disk) (P : List String → Prop) : d.Leaves d P :=
  ⟨Later.refl d, fun _ _ _ _ h => h⟩

theorem trans (h : d.Leaves d' P) (h' : d'.Leaves d'' Q) :
    d.Leaves d'' fun place => P place ∧ Q place where
  later := h.later.trans h'.later
  files place content written hplace hnode :=
    h'.files place content written hplace.2 (h.files place content written hplace.1 hnode)

theorem mono (h : d.Leaves d' P) (hPQ : ∀ place, Q place → P place) : d.Leaves d' Q :=
  ⟨h.later, fun place content written hplace => h.files place content written (hPQ place hplace)⟩

end Leaves

/-! ## Operations -/

theorem node?_setNode_self (d : Disk) {n : DiskNode} (h : p ≠ []) :
    (d.setNode p n).node? p = some n := by
  simp [node?, setNode, h]

theorem node?_setNode_of_ne (d : Disk) {n : DiskNode} (h : q ≠ p) :
    (d.setNode p n).node? q = d.node? q := by
  have hne : (q == p) = false := by simpa using h
  have hkeep : ∀ m : DiskNode, decide ((q, m).1 ≠ p) = true := fun m : DiskNode => by simpa using h
  unfold node? setNode
  rw [List.lookup_cons, hne, lookup_filter_of_keep hkeep]

theorem node?_filter_of_ne (d : Disk) (h : q ≠ p) :
    ({ d with nodes := d.nodes.filter fun n => n.1 ≠ p } : Disk).node? q = d.node? q := by
  have hkeep : ∀ m : DiskNode, decide ((q, m).1 ≠ p) = true := fun m : DiskNode => by simpa using h
  unfold node?
  rw [lookup_filter_of_keep hkeep]

theorem node?_filter_self (d : Disk) (h : p ≠ []) :
    ({ d with nodes := d.nodes.filter fun n => n.1 ≠ p } : Disk).node? p = none := by
  have hnone : (d.nodes.filter fun n => n.1 ≠ p).lookup p = none := by
    rw [List.lookup_eq_none_iff]
    intro n hn
    have hne : n.1 ≠ p := of_decide_eq_true (List.mem_filter.1 hn).2
    exact bne_iff_ne.2 (Ne.symm hne)
  unfold node?
  rw [hnone]
  simp [h]

theorem ne_nil_of_node? (h : d.node? p ≠ some .directory) : p ≠ [] := by
  rintro rfl
  exact h rfl

theorem put_ok {content : FileContent} (h : d.put path content = .ok d') :
    ∃ place, d.locate path = .ok place ∧ d.node? place ≠ some .directory ∧
      d' = d.setNode place (.file content true) := by
  unfold put at h
  split at h
  · cases h
  · rename_i place hlocate
    split at h
    · cases h
    · rename_i hnode
      cases h
      exact ⟨place, hlocate, hnode, rfl⟩

/-- Something stands on the later disk at the place, or nothing does, where there was no directory. At all
others stands what stood there. -/
structure Turns (d d' : Disk) (p : List String) (new : Option DiskNode) : Prop where
  root : d'.root = d.root
  old : d.node? p ≠ some .directory
  node : d'.node? p = new
  others : ∀ q, q ≠ p → d'.node? q = d.node? q

theorem turns_setNode (h : d.node? p ≠ some .directory) (n : DiskNode) :
    d.Turns (d.setNode p n) p (some n) :=
  ⟨rfl, h, node?_setNode_self d (ne_nil_of_node? h), fun _ hq => node?_setNode_of_ne d hq⟩

theorem turns_filter (h : d.node? p ≠ some .directory) :
    d.Turns { d with nodes := d.nodes.filter fun n => n.1 ≠ p } p none :=
  ⟨rfl, h, node?_filter_self d (ne_nil_of_node? h), fun _ hq => node?_filter_of_ne d hq⟩

namespace Turns

variable {new : Option DiskNode}

theorem leaves (h : d.Turns d' p new) : d.Leaves d' fun q => q ≠ p where
  later := ⟨h.root, fun q hq => (h.others q fun heq => h.old (heq ▸ hq)).trans hq⟩
  files q _ _ hne hq := (h.others q hne).trans hq

theorem locate (h : d.Turns d' p new) (hq : d.locate path = .ok q) : d'.locate path = .ok q :=
  h.leaves.later.locate hq

/-- A path that leads to the place leads there still, so what other paths lead to is left. -/
theorem leaves_of_locate (h : d.Turns d' p new) (hp : d.locate path = .ok p) :
    d.Leaves d' fun q => d'.locate path ≠ .ok q :=
  h.leaves.mono fun _ hq heq => hq (heq ▸ h.locate hp)

end Turns

theorem put_turns {content : FileContent} (h : d.put path content = .ok d') :
    ∃ p, d.locate path = .ok p ∧ d.Turns d' p (some (.file content true)) := by
  obtain ⟨p, hlocate, hnode, rfl⟩ := put_ok h
  exact ⟨p, hlocate, turns_setNode hnode _⟩

theorem put_leaves {content : FileContent} (h : d.put path content = .ok d') :
    d.Leaves d' fun place => d'.locate path ≠ .ok place := by
  obtain ⟨p, hlocate, hturns⟩ := put_turns h
  exact hturns.leaves_of_locate hlocate

/-- What is written can be read. -/
theorem readText_write {s : String} (h : d.write path s = .ok d') : d'.readText path = .ok s := by
  obtain ⟨p, hlocate, hturns⟩ := put_turns h
  exact readText_ok.2 ⟨p, true, hturns.locate hlocate, hturns.node⟩

theorem removeFile_ok (h : d.removeFile path = .ok d') : ∃ p content written,
    d.locate path = .ok p ∧ d.node? p = some (.file content written) ∧
      d' = { d with nodes := d.nodes.filter fun n => n.1 ≠ p } := by
  unfold removeFile at h
  split at h
  · cases h
  · rename_i p hlocate
    split at h
    · cases h
    · rename_i content written hnode
      cases h
      exact ⟨p, content, written, hlocate, hnode, rfl⟩
    · cases h

theorem removeFile_turns (h : d.removeFile path = .ok d') :
    ∃ p, d.locate path = .ok p ∧ d.Turns d' p none := by
  obtain ⟨p, content, written, hlocate, hnode, rfl⟩ := removeFile_ok h
  exact ⟨p, hlocate, turns_filter (by simp [hnode])⟩

theorem removeFile_leaves (h : d.removeFile path = .ok d') :
    d.Leaves d' fun place => d'.locate path ≠ .ok place := by
  obtain ⟨p, hlocate, hturns⟩ := removeFile_turns h
  exact hturns.leaves_of_locate hlocate

/-- A directory is made in one that is there, under a name where nothing stands. -/
theorem makeDir_made {parts : List PathPart} (h : d.makeDir parts = .ok d') :
    ∃ front n parent, parts = front ++ [.name n] ∧ d.follow [] front = .ok parent ∧
      d.checkDirectory parent = .ok () ∧ d.node? (parent ++ [n]) = none ∧
      d' = d.setNode (parent ++ [n]) .directory := by
  unfold makeDir at h
  split at h
  · cases h
  · rename_i last hlast
    obtain ⟨front, rfl⟩ := List.getLast?_eq_some_iff.1 hlast
    rw [List.dropLast_concat] at h
    split at h
    · cases h
    · rename_i parent hparent
      split at h
      · cases h
      · rename_i hcheck
        split at h
        · rename_i n
          split at h
          · cases h
          · rename_i hnode
            cases h
            exact ⟨front, n, parent, rfl, hparent, hcheck, hnode, rfl⟩
        · cases h

/-- A directory is made where nothing stands. -/
theorem makeDir_ok {parts : List PathPart} (h : d.makeDir parts = .ok d') :
    ∃ p, p ≠ [] ∧ d.node? p = none ∧ d' = d.setNode p .directory := by
  obtain ⟨front, n, parent, -, -, -, hnode, rfl⟩ := makeDir_made h
  exact ⟨parent ++ [n], by simp, hnode, rfl⟩

theorem makeDir_turns {parts : List PathPart} (h : d.makeDir parts = .ok d') :
    ∃ p, d.node? p = none ∧ d.Turns d' p (some .directory) := by
  obtain ⟨p, -, hnode, rfl⟩ := makeDir_ok h
  exact ⟨p, hnode, turns_setNode (by simp [hnode]) _⟩

theorem makeDir_leaves {parts : List PathPart} (h : d.makeDir parts = .ok d') :
    d.Leaves d' fun _ => True := by
  obtain ⟨p, hnone, hturns⟩ := makeDir_turns h
  refine ⟨hturns.leaves.later, fun q content written _ hq => hturns.leaves.files q _ _ ?_ hq⟩
  rintro rfl
  rw [hnone] at hq
  cases hq

/-- What the making of one directory does to a disk, the making of a directory and of all above it does, if
it may be done many times over. The directories made are ones that a beginning of the path leads to. -/
theorem makeDirsFrom_ok {R : Disk → Disk → Prop} (hrefl : ∀ d, R d d)
    (htrans : ∀ {d d' d''}, R d d' → R d' d'' → R d d'') {fuel : Nat} {parts : List PathPart}
    (hstep : ∀ {d d' : Disk} {front : List PathPart}, front <+: parts → d.makeDir front = .ok d' → R d d')
    (h : makeDirsFrom fuel d parts = .ok d') : R d d' := by
  induction fuel generalizing d d' parts with
  | zero => cases h
  | succ fuel ih =>
    have habove : (dropCurrent parts).dropLast <+: parts := by
      refine (List.dropLast_prefix _).trans ?_
      unfold dropCurrent
      rw [← List.reverse_suffix, List.reverse_reverse]
      exact List.dropWhile_suffix _
    unfold makeDirsFrom at h
    split at h
    · rename_i hdir
      cases h
      exact hstep List.prefix_rfl hdir
    · split at h
      · cases h
      · rename_i d₁ hbelow
        have hfirst := ih (fun hfront => hstep (hfront.trans habove)) hbelow
        split at h
        · rename_i hdir
          cases h
          exact htrans hfirst (hstep List.prefix_rfl hdir)
        · split at h
          · cases h
            exact hfirst
          · cases h
    · split at h
      · cases h
        exact hrefl d
      · cases h

theorem makeDirs_ok {R : Disk → Disk → Prop} (hrefl : ∀ d, R d d)
    (htrans : ∀ {d d' d''}, R d d' → R d' d'' → R d d'')
    (hstep : ∀ {d d' : Disk} {parts : List PathPart}, d.makeDir parts = .ok d' → R d d')
    (h : d.makeDirs path = .ok d') : R d d' := by
  unfold makeDirs at h
  dsimp only at h
  split at h
  · exact makeDirsFrom_ok hrefl htrans (fun _ => hstep) h
  · cases h

theorem makeDirs_leaves (h : d.makeDirs path = .ok d') : d.Leaves d' fun _ => True :=
  makeDirs_ok (R := fun d d' => d.Leaves d' fun _ => True) (fun d => .refl d _)
    (fun h h' => (h.trans h').mono fun _ _ => ⟨trivial, trivial⟩) makeDir_leaves h

end Disk

end DisplayGen
