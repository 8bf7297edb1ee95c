import DisplayGen.Proofs.Disk.Files
import DisplayGen.Proofs.Except

/-!
# Disks that look alike

`Disk.Alike d d'`: at each place of the two disks stands a file, a directory or nothing, the same on both.
What the files hold may differ.

* Paths lead to the same places (`Alike.locate`), and operations fail alike, or leave disks that are
  alike (`Alike.put`, `Alike.removeFile`, `Alike.makeDirs`): which of them succeed does not depend on what
  files hold.
* `Work.Relates R w w'`: on disks that are related by `R`, `w` and `w'` fail with the same failure or both
  succeed, and leave disks that are related (`Relates.bind`, `Relates.forM`). `Work.Matches` is this for
  disks that are alike.
-/

namespace DisplayGen

/-- A directory stands at a place, not a file. -/
def DiskNode.isDirectory : DiskNode → Bool
  | directory => true
  | file _ _ => false

namespace Disk

variable {d d' d'' : Disk} {p q : List String} {path : String} {parts : List PathPart}

/-- The root is the same, and at each place stands a file on both disks, a directory, or nothing. -/
structure Alike (d d' : Disk) : Prop where
  root : d'.root = d.root
  kind : ∀ q, (d'.node? q).map DiskNode.isDirectory = (d.node? q).map DiskNode.isDirectory

namespace Alike

theorem refl (d : Disk) : d.Alike d := ⟨rfl, fun _ => rfl⟩

theorem symm (h : d.Alike d') : d'.Alike d := ⟨h.root.symm, fun q => (h.kind q).symm⟩

theorem trans (h : d.Alike d') (h' : d'.Alike d'') : d.Alike d'' :=
  ⟨h'.root.trans h.root, fun q => (h'.kind q).trans (h.kind q)⟩

/-- What stands at a place on the two disks. -/
theorem node_cases (h : d.Alike d') (q : List String) :
    d.node? q = none ∧ d'.node? q = none ∨
      d.node? q = some .directory ∧ d'.node? q = some .directory ∨
      ∃ content written content' written', d.node? q = some (.file content written) ∧
        d'.node? q = some (.file content' written') := by
  have hkind := h.kind q
  cases hd : d.node? q with
  | none =>
    rw [hd, Option.map_none, Option.map_eq_none_iff] at hkind
    exact .inl ⟨rfl, hkind⟩
  | some n =>
    rw [hd, Option.map_some, Option.map_eq_some_iff] at hkind
    obtain ⟨n', hnode, hn⟩ := hkind
    cases n with
    | directory =>
      cases n' with
      | directory => exact .inr (.inl ⟨rfl, hnode⟩)
      | file => cases hn
    | file content written =>
      cases n' with
      | directory => cases hn
      | file content' written' => exact .inr (.inr ⟨content, written, content', written', rfl, hnode⟩)

theorem setNode (h : d.Alike d') {n n' : DiskNode} (hn : n'.isDirectory = n.isDirectory) (hp : p ≠ []) :
    (d.setNode p n).Alike (d'.setNode p n') where
  root := h.root
  kind q := by
    by_cases hq : q = p
    · subst hq
      rw [node?_setNode_self d hp, node?_setNode_self d' hp, Option.map_some, Option.map_some, hn]
    · rw [node?_setNode_of_ne d hq, node?_setNode_of_ne d' hq, h.kind q]

theorem filter (h : d.Alike d') (hp : p ≠ []) :
    ({ d with nodes := d.nodes.filter fun n => n.1 ≠ p } : Disk).Alike
      { d' with nodes := d'.nodes.filter fun n => n.1 ≠ p } where
  root := h.root
  kind q := by
    by_cases hq : q = p
    · subst hq
      rw [node?_filter_self d hp, node?_filter_self d' hp]
    · rw [node?_filter_of_ne d hq, node?_filter_of_ne d' hq, h.kind q]

/-! ## Where paths lead -/

theorem checkDirectory (h : d.Alike d') (q : List String) :
    d'.checkDirectory q = d.checkDirectory q := by
  unfold Disk.checkDirectory
  rcases h.node_cases q with ⟨hd, hd'⟩ | ⟨hd, hd'⟩ | ⟨_, _, _, _, hd, hd'⟩
  all_goals rw [hd, hd']

theorem follow (h : d.Alike d') (p : List String) (parts : List PathPart) :
    d'.follow p parts = d.follow p parts := by
  induction parts generalizing p with
  | nil => rfl
  | cons part parts ih =>
    cases part with
    | root => exact ih []
    | current | parent | name n =>
      unfold Disk.follow
      simp only [h.checkDirectory p, ih]

theorem locate (h : d.Alike d') (path : String) : d'.locate path = d.locate path := by
  unfold Disk.locate
  rw [h.root]
  cases below? d.root path with
  | none => rfl
  | some parts => exact h.follow [] parts

theorem contains (h : d.Alike d') (path : String) : d'.contains path = d.contains path := by
  unfold Disk.contains find
  rw [h.locate path]
  cases d.locate path with
  | error e => rfl
  | ok q =>
    dsimp only
    rcases h.node_cases q with ⟨hd, hd'⟩ | ⟨hd, hd'⟩ | ⟨_, _, _, _, hd, hd'⟩
    all_goals rw [hd, hd']

theorem hasFile (h : d.Alike d') : d'.HasFile q ↔ d.HasFile q := by
  unfold HasFile
  rcases h.node_cases q with ⟨hd, hd'⟩ | ⟨hd, hd'⟩ | ⟨_, _, _, _, hd, hd'⟩
  all_goals simp [hd, hd']

theorem leadsToDirectory (h : d.Alike d') (parts : List PathPart) :
    d'.leadsToDirectory parts = d.leadsToDirectory parts := by
  unfold Disk.leadsToDirectory
  rw [h.follow]
  cases d.follow [] parts with
  | error e => rfl
  | ok q =>
    dsimp only
    rcases h.node_cases q with ⟨hd, hd'⟩ | ⟨hd, hd'⟩ | ⟨_, _, _, _, hd, hd'⟩
    all_goals rw [hd, hd']
    rfl

/-! ## Operations -/

theorem put (h : d.Alike d') (path : String) (content content' : FileContent) :
    Agree Alike (d.put path content) (d'.put path content') := by
  unfold Disk.put
  rw [h.locate path]
  cases d.locate path with
  | error e => exact .error e
  | ok q =>
    dsimp only
    rcases h.node_cases q with ⟨hd, hd'⟩ | ⟨hd, hd'⟩ | ⟨_, _, _, _, hd, hd'⟩
    · rw [hd, hd']
      exact .ok (h.setNode rfl (ne_nil_of_node? (d := d) (by simp [hd])))
    · rw [hd, hd']
      exact .error _
    · rw [hd, hd']
      exact .ok (h.setNode rfl (ne_nil_of_node? (d := d) (by simp [hd])))

/-- Writing to a file succeeds, and changes nothing but what the file holds. -/
theorem write_file (text : String) (hq : d.locate path = .ok q) (hfile : d.HasFile q) :
    ∃ d', d.write path text = .ok d' ∧ d.Alike d' := by
  obtain ⟨old, written, hnode⟩ := hfile
  refine ⟨d.setNode q (.file (.text text) true), ?_, rfl, fun p => ?_⟩
  · unfold Disk.write Disk.put
    rw [hq]
    dsimp only
    rw [hnode]
  · by_cases hp : p = q
    · subst hp
      rw [node?_setNode_self d (ne_nil_of_node? (d := d) (by simp [hnode])), hnode]
      rfl
    · rw [node?_setNode_of_ne d hp]

theorem removeFile (h : d.Alike d') (path : String) :
    Agree Alike (d.removeFile path) (d'.removeFile path) := by
  unfold Disk.removeFile
  rw [h.locate path]
  cases d.locate path with
  | error e => exact .error e
  | ok q =>
    dsimp only
    rcases h.node_cases q with ⟨hd, hd'⟩ | ⟨hd, hd'⟩ | ⟨_, _, _, _, hd, hd'⟩
    · rw [hd, hd']
      exact .error _
    · rw [hd, hd']
      exact .error _
    · rw [hd, hd']
      exact .ok (h.filter (ne_nil_of_node? (d := d) (by simp [hd])))

theorem makeDir (h : d.Alike d') (parts : List PathPart) :
    Agree Alike (d.makeDir parts) (d'.makeDir parts) := by
  unfold Disk.makeDir
  rw [h.follow]
  split
  · exact .error _
  · split
    · exact .error _
    · rename_i parent _
      rw [h.checkDirectory]
      split
      · exact .error _
      · split
        · rename_i n _
          rcases h.node_cases (parent ++ [n]) with ⟨hd, hd'⟩ | ⟨hd, hd'⟩ | ⟨_, _, _, _, hd, hd'⟩
          · rw [hd, hd']
            exact .ok (h.setNode rfl (by simp))
          · rw [hd, hd']
            exact .error _
          · rw [hd, hd']
            exact .error _
        · exact .error _

theorem makeDirsFrom (h : d.Alike d') (fuel : Nat) (parts : List PathPart) :
    Agree Alike (Disk.makeDirsFrom fuel d parts) (Disk.makeDirsFrom fuel d' parts) := by
  induction fuel generalizing d d' parts with
  | zero => exact .error _
  | succ fuel ih =>
    unfold Disk.makeDirsFrom
    rcases (h.makeDir parts).cases with ⟨e, hmade, hmade'⟩ | ⟨d₁, d₁', hmade, hmade', h₁⟩
    · rw [hmade, hmade']
      cases e with
      | notFound =>
        rcases (ih h (dropCurrent parts).dropLast).cases with
          ⟨e, hbelow, hbelow'⟩ | ⟨d₁, d₁', hbelow, hbelow', h₁⟩
        · rw [hbelow, hbelow']
          exact .error e
        · rw [hbelow, hbelow']
          dsimp only
          rcases (h₁.makeDir parts).cases with ⟨e, hlast, hlast'⟩ | ⟨d₂, d₂', hlast, hlast', h₂⟩
          · rw [hlast, hlast', h₁.leadsToDirectory]
            dsimp only
            split
            · exact .ok h₁
            · exact .error e
          · rw [hlast, hlast']
            exact .ok h₂
      | invalidData | isADirectory | notADirectory | alreadyExists =>
        dsimp only
        rw [h.leadsToDirectory]
        split
        · exact .ok h
        · exact .error _
    · rw [hmade, hmade']
      exact .ok h₁

theorem makeDirs (h : d.Alike d') (path : String) : Agree Alike (d.makeDirs path) (d'.makeDirs path) := by
  unfold Disk.makeDirs
  dsimp only
  rw [h.root]
  split
  · exact h.makeDirsFrom _ _
  · exact .error _

end Alike

/-- A relation that the operations of a save keep: they fail alike, or leave disks that are related. -/
structure Respected (R : Disk → Disk → Prop) : Prop where
  contains : ∀ {d d'}, R d d' → ∀ path, d'.contains path = d.contains path
  write : ∀ {d d'}, R d d' → ∀ path text, Agree R (d.write path text) (d'.write path text)
  removeFile : ∀ {d d'}, R d d' → ∀ path, Agree R (d.removeFile path) (d'.removeFile path)
  makeDirs : ∀ {d d'}, R d d' → ∀ path, Agree R (d.makeDirs path) (d'.makeDirs path)

theorem Alike.respected : Respected Alike :=
  ⟨fun h => h.contains, fun h path _ => h.put path _ _, fun h => h.removeFile, fun h => h.makeDirs⟩

end Disk

/-! ## Work -/

namespace Work

variable {α β : Type} {R : Disk → Disk → Prop}

/-- On disks that are related, both fail with the same failure or give the same value, and leave disks that
are related. -/
def Relates (R : Disk → Disk → Prop) (w w' : Work α) : Prop :=
  ∀ d d', R d d' → (w.outcome d).1 = (w'.outcome d').1 ∧ R (w.outcome d).2 (w'.outcome d').2

namespace Relates

variable {w w' : Work α}

theorem pure (a : α) : Relates R (Pure.pure a) (Pure.pure a) := fun _ _ h => ⟨rfl, h⟩

theorem error (e : Failure) : Relates R (throw e : Work α) (throw e) := fun _ _ h => ⟨rfl, h⟩

theorem bind {f f' : α → Work β} (h : Relates R w w') (hf : ∀ a, Relates R (f a) (f' a)) :
    Relates R (w >>= f) (w' >>= f') := by
  intro d d' hd
  obtain ⟨hresult, hleft⟩ := h d d' hd
  rw [outcome_bind, outcome_bind]
  generalize w.outcome d = o at hresult hleft
  generalize w'.outcome d' = o' at hresult hleft
  obtain ⟨res, d₁⟩ := o
  obtain ⟨res', d₁'⟩ := o'
  dsimp only at hresult hleft
  subst hresult
  cases res with
  | error e => exact ⟨rfl, hleft⟩
  | ok a => exact hf a d₁ d₁' hleft

theorem change {context : String} {f f' : Disk → Except FileError Disk}
    (hf : ∀ d d', R d d' → Agree R (f d) (f' d')) :
    Relates R (Work.change context f) (Work.change context f') := by
  intro d d' hd
  rw [outcome_change, outcome_change]
  rcases (hf d d' hd).cases with ⟨e, hx, hy⟩ | ⟨d₁, d₁', hx, hy, h₁⟩
  · rw [hx, hy]
    exact ⟨rfl, hd⟩
  · rw [hx, hy]
    exact ⟨rfl, h₁⟩

theorem forM {α' : Type} {as : List α} {as' : List α'} {f : α → Work Unit} {f' : α' → Work Unit}
    (h : List.Forall₂ (fun a a' => Relates R (f a) (f' a')) as as') :
    Relates R (as.forM f) (as'.forM f') := by
  induction h with
  | nil => exact pure ()
  | cons hfirst _ ih => exact hfirst.bind fun _ => ih

end Relates

end Work

end DisplayGen
