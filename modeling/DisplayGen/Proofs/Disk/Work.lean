import DisplayGen.Disk.Work
import DisplayGen.Proofs.Disk

/-!
# Work that succeeds

What it says about the steps of work on a disk that the whole of it succeeds: each step has
succeeded on the disk that the one before it has left (`Work.bind_ok`, `Work.change_ok`).
`Work.forM_leaves` carries what is left as it was through a sequence of steps.
-/

namespace DisplayGen

theorem withContext_ok {α : Type} {context : String} {r : Except Failure α} {a : α} :
    withContext context r = .ok a ↔ r = .ok a := by
  unfold withContext
  cases r with
  | error e => simp [Except.mapError]
  | ok b => simp [Except.mapError]

theorem ofGeneration_ok {α : Type} {r : Except GenerationError α} {a : α} :
    ofGeneration r = .ok a ↔ r = .ok a := by
  unfold ofGeneration
  cases r with
  | error e => simp [Except.mapError]
  | ok b => simp [Except.mapError]

theorem ofFile_ok {α : Type} {r : Except FileError α} {a : α} : ofFile r = .ok a ↔ r = .ok a := by
  unfold ofFile
  cases r with
  | error e => simp [Except.mapError]
  | ok b => simp [Except.mapError]

theorem ofConfig_ok {α : Type} {r : Except ConfigError α} {a : α} :
    ofConfig r = .ok a ↔ r = .ok a := by
  unfold ofConfig
  cases r with
  | error e => simp [Except.mapError]
  | ok b => simp [Except.mapError]

namespace Work

variable {α β : Type} {d d' : Disk}

/-- The second step is done on the disk that the first has left, if that succeeds. -/
theorem outcome_bind (w : Work α) (f : α → Work β) (d : Disk) :
    (w >>= f).outcome d = match w.outcome d with
      | (.ok a, d₁) => (f a).outcome d₁
      | (.error e, d₁) => (.error e, d₁) := by
  change ExceptT.bindCont f (w.outcome d).1 (w.outcome d).2 = _
  generalize w.outcome d = o
  obtain ⟨r, d₁⟩ := o
  cases r with
  | error e => rfl
  | ok a => rfl

theorem bind_outcome {w : Work α} {f : α → Work β} {res : Except Failure β}
    (h : (w >>= f).outcome d = (res, d')) :
    (∃ e, w.outcome d = (.error e, d') ∧ res = .error e) ∨
      ∃ a d₁, w.outcome d = (.ok a, d₁) ∧ (f a).outcome d₁ = (res, d') := by
  rw [outcome_bind] at h
  split at h
  · rename_i a d₁ hw
    exact .inr ⟨a, d₁, hw, h⟩
  · rename_i e d₁ hw
    cases h
    exact .inl ⟨e, hw, rfl⟩

theorem bind_ok {w : Work α} {f : α → Work β} {b : β} (h : (w >>= f).outcome d = (.ok b, d')) :
    ∃ a d₁, w.outcome d = (.ok a, d₁) ∧ (f a).outcome d₁ = (.ok b, d') := by
  rcases bind_outcome h with ⟨e, -, herror⟩ | h
  · cases herror
  · exact h

theorem look_bind (f : Disk → α) (g : α → Work β) (d : Disk) :
    (look f >>= g).outcome d = (g (f d)).outcome d := rfl

/-- A change that fails leaves the disk as it was. -/
theorem outcome_change (context : String) (f : Disk → Except FileError Disk) (d : Disk) :
    (change context f).outcome d = match f d with
      | .ok d₁ => (.ok (), d₁)
      | .error e => (.error ⟨[context], .file e⟩, d) := by
  have hchange : (change context f).outcome d =
      ExceptT.bindCont (fun d₁ : Disk => (set d₁ : Work Unit))
        (withContext context (ofFile (f d))) d := rfl
  rw [hchange]
  cases f d with
  | error e => rfl
  | ok d₁ => rfl

theorem change_outcome {context : String} {f : Disk → Except FileError Disk}
    {res : Except Failure Unit} (h : (change context f).outcome d = (res, d')) :
    d' = d ∧ (∃ e, res = .error e) ∨ f d = .ok d' := by
  rw [outcome_change] at h
  split at h
  · rename_i d₁ hf
    cases h
    exact .inr hf
  · cases h
    exact .inl ⟨rfl, _, rfl⟩

theorem change_ok {context : String} {f : Disk → Except FileError Disk}
    (h : (change context f).outcome d = (.ok (), d')) : f d = .ok d' := by
  rcases change_outcome h with ⟨-, e, herror⟩ | h
  · cases herror
  · exact h

/-- What comes before one of a sequence of steps, the step, and what comes after it. -/
theorem forM_ok_cons {before after : List α} {a : α} {f : α → Work Unit}
    (h : ((before ++ a :: after).forM f).outcome d = (.ok (), d')) :
    ∃ d₁ d₂, (before.forM f).outcome d = (.ok (), d₁) ∧ (f a).outcome d₁ = (.ok (), d₂) ∧
      (after.forM f).outcome d₂ = (.ok (), d') := by
  induction before generalizing d with
  | nil =>
    change (f a >>= fun _ => after.forM f).outcome d = (.ok (), d') at h
    obtain ⟨u, d₁, hfirst, hrest⟩ := bind_ok h
    exact ⟨d, d₁, rfl, hfirst, hrest⟩
  | cons b before ih =>
    change (f b >>= fun _ => (before ++ a :: after).forM f).outcome d = (.ok (), d') at h
    obtain ⟨u, d₀, hfirst, hrest⟩ := bind_ok h
    obtain ⟨d₁, d₂, hbefore, hstep, hafter⟩ := ih hrest
    refine ⟨d₁, d₂, ?_, hstep, hafter⟩
    change (f b >>= fun _ => before.forM f).outcome d = (.ok (), d₁)
    rw [outcome_bind, hfirst]
    exact hbefore

theorem forM_leaves {as : List α} {f : α → Work Unit} {path : α → String}
    (hf : ∀ a d d', (f a).outcome d = (.ok (), d') →
      d.Leaves d' fun place => d'.locate (path a) ≠ .ok place)
    (h : (as.forM f).outcome d = (.ok (), d')) :
    d.Leaves d' fun place => ∀ a ∈ as, d'.locate (path a) ≠ .ok place := by
  induction as generalizing d with
  | nil =>
    cases h
    exact Disk.Leaves.refl _ _
  | cons a as ih =>
    change (f a >>= fun _ => as.forM f).outcome d = (.ok (), d') at h
    obtain ⟨u, d₁, hfirst, hrest⟩ := bind_ok h
    have hleaves := ih hrest
    refine ((hf a d d₁ hfirst).trans hleaves).mono fun place hplace => ⟨?_, ?_⟩
    · exact fun heq => hplace a (List.mem_cons_self ..) (hleaves.later.locate heq)
    · exact fun b hb => hplace b (List.mem_cons_of_mem a hb)

end Work

end DisplayGen
