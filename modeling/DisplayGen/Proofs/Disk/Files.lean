import DisplayGen.Proofs.Disk
import DisplayGen.Proofs.Disk.Work

/-!
# Where files come from and where they go

`Disk.Moves d d' puts removes` tells which places have files on two disks, one later than the other: a
file that is new stands at a place in `puts`, and one that is gone stood at a place in `removes`. What
the files hold is not told (see `Disk.Leaves`).

* Each operation moves at most the file to which its path leads (`put_moves`, `removeFile_moves`), and
  making directories moves none.
* `Work.Touches w puts removes`: the work `w` moves files only where these paths lead, whether it
  succeeds or fails on the way (`Touches.bind`, `Touches.forM`).
-/

namespace DisplayGen

namespace Disk

variable {d d' d'' : Disk} {p q : List String} {path : String}

/-- A file stands at the place. -/
def HasFile (d : Disk) (q : List String) : Prop :=
  ∃ content written, d.node? q = some (.file content written)

theorem HasFile.ne_nil (h : d.HasFile q) : q ≠ [] := by
  rintro rfl
  obtain ⟨content, written, hnode⟩ := h
  cases hnode

/-- If a file stands at the place, it holds a text. -/
def Legible (d : Disk) (q : List String) : Prop := ∀ bs, d.contentAt q ≠ .ok (.bytes bs)

theorem contentAt_ok {content : FileContent} :
    d.contentAt q = .ok content ↔ ∃ written, d.node? q = some (.file content written) := by
  unfold contentAt
  split
  · simp [*]
  · simp [*]
  · simp [*]

theorem hasFile_iff : d.HasFile q ↔ ∃ content, d.contentAt q = .ok content :=
  exists_congr fun _ => contentAt_ok.symm

theorem hasFile_of_readText {s : String} (h : d.readText path = .ok s) :
    ∃ q, d.locate path = .ok q ∧ d.HasFile q := by
  obtain ⟨q, written, hlocate, hnode⟩ := readText_ok.1 h
  exact ⟨q, hlocate, _, written, hnode⟩

/-- A file that holds a text can be read. -/
theorem exists_readText (hlocate : d.locate path = .ok q) (h : d.HasFile q) (hlegible : d.Legible q) :
    ∃ s, d.readText path = .ok s := by
  obtain ⟨content, hcontent⟩ := hasFile_iff.1 h
  cases content with
  | text s =>
    obtain ⟨written, hnode⟩ := contentAt_ok.1 hcontent
    exact ⟨s, readText_ok.2 ⟨q, written, hlocate, hnode⟩⟩
  | bytes bs => exact absurd hcontent (hlegible bs)

theorem legible_of_readText {s : String} (hlocate : d.locate path = .ok q) (h : d.readText path = .ok s) :
    d.Legible q := by
  obtain ⟨q', written, hlocate', hnode⟩ := readText_ok.1 h
  rw [hlocate] at hlocate'
  cases hlocate'
  intro bs hbytes
  rw [contentAt_ok.2 ⟨written, hnode⟩] at hbytes
  cases hbytes

/-- What stands at the place of a file is found under its path. -/
theorem contains_of_hasFile (hlocate : d.locate path = .ok q) (h : d.HasFile q) :
    d.contains path = true := by
  obtain ⟨content, written, hnode⟩ := h
  unfold contains find
  rw [hlocate]
  dsimp only
  rw [hnode]

/-- The files of the later disk that are new stand at places in `puts`, and those of the earlier one that
are gone stood at places in `removes`. Texts stay texts. -/
structure Moves (d d' : Disk) (puts removes : List String → Prop) : Prop where
  later : d.Later d'
  origin : ∀ q, d'.HasFile q → d.HasFile q ∨ puts q
  fate : ∀ q, d.HasFile q → d'.HasFile q ∨ removes q
  legible : ∀ q, d.Legible q → d'.Legible q

namespace Moves

variable {puts removes puts' removes' : List String → Prop}

theorem refl (d : Disk) (puts removes : List String → Prop) : d.Moves d puts removes :=
  ⟨Later.refl d, fun _ h => .inl h, fun _ h => .inl h, fun _ h => h⟩

theorem trans (h : d.Moves d' puts removes) (h' : d'.Moves d'' puts' removes') :
    d.Moves d'' (fun q => puts q ∨ puts' q) fun q => removes q ∨ removes' q where
  later := h.later.trans h'.later
  origin q hq := by
    rcases h'.origin q hq with hq | hq
    · exact (h.origin q hq).imp_right .inl
    · exact .inr (.inr hq)
  fate q hq := by
    rcases h.fate q hq with hq | hq
    · exact (h'.fate q hq).imp_right .inr
    · exact .inr (.inl hq)
  legible q hq := h'.legible q (h.legible q hq)

theorem mono (h : d.Moves d' puts removes) (hputs : ∀ q, puts q → puts' q)
    (hremoves : ∀ q, removes q → removes' q) : d.Moves d' puts' removes' :=
  ⟨h.later, fun q hq => (h.origin q hq).imp_right (hputs q),
    fun q hq => (h.fate q hq).imp_right (hremoves q), h.legible⟩

end Moves

/-! ## Operations -/

theorem hasFile_of_eq (h : d'.node? q = d.node? q) : d'.HasFile q ↔ d.HasFile q := by
  unfold HasFile
  rw [h]

/-- A change at one place moves at most the file there, if what comes there are not bytes. -/
theorem moves_of_turns {new : Option DiskNode} (h : d.Turns d' p new)
    (hnew : ∀ bs written, new ≠ some (.file (.bytes bs) written)) : d.Moves d' (· = p) (· = p) where
  later := h.leaves.later
  origin q hq := by
    by_cases heq : q = p
    · exact .inr heq
    · exact .inl ((hasFile_of_eq (h.others q heq)).1 hq)
  fate q hq := by
    by_cases heq : q = p
    · exact .inr heq
    · exact .inl ((hasFile_of_eq (h.others q heq)).2 hq)
  legible q hq := by
    by_cases heq : q = p
    · intro bs hbytes
      obtain ⟨written, hnode⟩ := contentAt_ok.1 hbytes
      rw [heq, h.node] at hnode
      exact hnew bs written hnode
    · unfold Legible contentAt
      rwa [h.others q heq]

theorem write_moves {text : String} (h : d.write path text = .ok d') :
    d.Moves d' (fun q => d'.locate path = .ok q) fun _ => False := by
  obtain ⟨p, hlocate, hturns⟩ := put_turns h
  have hmoves := moves_of_turns hturns (by simp)
  refine ⟨hmoves.later, fun q hq => (hmoves.origin q hq).imp_right ?_, fun q hq => .inl ?_,
    hmoves.legible⟩
  · rintro rfl
    exact hturns.locate hlocate
  · rcases hmoves.fate q hq with hq | rfl
    · exact hq
    · exact ⟨_, _, hturns.node⟩

theorem Turns.not_hasFile (h : d.Turns d' p none) : ¬ d'.HasFile p := by
  rintro ⟨content, written, hnode⟩
  rw [h.node] at hnode
  cases hnode

theorem removeFile_moves (h : d.removeFile path = .ok d') :
    d.Moves d' (fun _ => False) fun q => d'.locate path = .ok q := by
  obtain ⟨p, hlocate, hturns⟩ := removeFile_turns h
  have hmoves := moves_of_turns hturns (by simp)
  refine ⟨hmoves.later, fun q hq => .inl ?_, fun q hq => (hmoves.fate q hq).imp_right ?_,
    hmoves.legible⟩
  · rcases hmoves.origin q hq with hq | rfl
    · exact hq
    · exact absurd hq hturns.not_hasFile
  · rintro rfl
    exact hturns.locate hlocate

/-- A file that is removed is gone. -/
theorem not_hasFile_removeFile (h : d.removeFile path = .ok d') (hq : d.locate path = .ok q) :
    ¬ d'.HasFile q := by
  obtain ⟨p, hlocate, hturns⟩ := removeFile_turns h
  rw [hlocate] at hq
  cases hq
  exact hturns.not_hasFile

theorem makeDir_moves {parts : List PathPart} (h : d.makeDir parts = .ok d') :
    d.Moves d' (fun _ => False) fun _ => False := by
  have hleaves := makeDir_leaves h
  obtain ⟨p, -, hturns⟩ := makeDir_turns h
  have hmoves := moves_of_turns hturns (by simp)
  refine ⟨hmoves.later, fun q hq => .inl ?_, fun q hq => .inl ?_, hmoves.legible⟩
  · rcases hmoves.origin q hq with hq | rfl
    · exact hq
    · obtain ⟨content, written, hfile⟩ := hq
      rw [hturns.node] at hfile
      cases hfile
  · obtain ⟨content, written, hfile⟩ := hq
    exact ⟨content, written, hleaves.files q content written trivial hfile⟩

theorem makeDirs_moves (h : d.makeDirs path = .ok d') :
    d.Moves d' (fun _ => False) fun _ => False :=
  makeDirs_ok (R := fun d d' => d.Moves d' (fun _ => False) fun _ => False) (fun d => .refl d _ _)
    (fun h h' => (h.trans h').mono (fun _ h => h.elim id id) fun _ h => h.elim id id) makeDir_moves h

end Disk

/-! ## Work -/

namespace Work

variable {α β : Type} {d d' : Disk}

/-- However far it comes, the work puts files only where the paths `puts` lead, and removes files only
where the paths `removes` lead. -/
def Touches (w : Work α) (puts removes : List String) : Prop :=
  ∀ d res d', w.outcome d = (res, d') →
    d.Moves d' (fun q => ∃ path ∈ puts, d'.locate path = .ok q)
      fun q => ∃ path ∈ removes, d'.locate path = .ok q

namespace Touches

variable {w : Work α} {puts removes puts' removes' : List String}

theorem pure (a : α) : Touches (Pure.pure a : Work α) puts removes := by
  intro d res d' h
  cases h
  exact Disk.Moves.refl _ _ _

theorem error {e : Failure} : Touches (throw e : Work α) puts removes := by
  intro d res d' h
  cases h
  exact Disk.Moves.refl _ _ _

theorem look (f : Disk → α) : Touches (Work.look f) puts removes := by
  intro d res d' h
  cases h
  exact Disk.Moves.refl _ _ _

theorem change {context : String} {f : Disk → Except FileError Disk}
    (hf : ∀ d d', f d = .ok d' → d.Moves d' (fun q => ∃ path ∈ puts, d'.locate path = .ok q)
      fun q => ∃ path ∈ removes, d'.locate path = .ok q) :
    Touches (Work.change context f) puts removes := by
  intro d res d' h
  rcases change_outcome h with ⟨rfl, -⟩ | h
  · exact Disk.Moves.refl _ _ _
  · exact hf d d' h

theorem mono (h : Touches w puts removes) (hputs : ∀ path ∈ puts, path ∈ puts')
    (hremoves : ∀ path ∈ removes, path ∈ removes') : Touches w puts' removes' := by
  intro d res d' hw
  refine (h d res d' hw).mono ?_ ?_
  · rintro q ⟨path, hpath, hq⟩
    exact ⟨path, hputs path hpath, hq⟩
  · rintro q ⟨path, hpath, hq⟩
    exact ⟨path, hremoves path hpath, hq⟩

/-- What each of two steps touches, both together touch. -/
theorem bind {f : α → Work β} (h : Touches w puts removes) (hf : ∀ a, Touches (f a) puts removes) :
    Touches (w >>= f) puts removes := by
  intro d res d' hw
  rcases bind_outcome hw with ⟨e, hw, -⟩ | ⟨a, d₁, hw, hrest⟩
  · exact h d _ d' hw
  · have hsecond := hf a d₁ res d' hrest
    refine ((h d _ d₁ hw).trans hsecond).mono ?_ ?_
    · rintro q (⟨path, hpath, hq⟩ | hq)
      · exact ⟨path, hpath, hsecond.later.locate hq⟩
      · exact hq
    · rintro q (⟨path, hpath, hq⟩ | hq)
      · exact ⟨path, hpath, hsecond.later.locate hq⟩
      · exact hq

theorem forM {as : List α} {f : α → Work Unit} (hf : ∀ a ∈ as, Touches (f a) puts removes) :
    Touches (as.forM f) puts removes := by
  induction as with
  | nil => exact pure ()
  | cons a as ih =>
    obtain ⟨hfirst, hrest⟩ := List.forall_mem_cons.1 hf
    exact hfirst.bind fun _ => ih hrest

end Touches

end Work

end DisplayGen
