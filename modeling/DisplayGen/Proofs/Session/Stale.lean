import DisplayGen.Proofs.Generator.Saved
import DisplayGen.Proofs.Session

/-!
# Stale files within a session

`Course p w`: a session of the project `p` was opened, and passes have led to `w`, with edits between
them. A pass that is stopped while it saves may leave any part of its work.

The generator takes over a generation before it is saved. So a name that a run removes is known to be
stale in that one save only: if it is stopped, no later pass comes back to it.

* `Course.Sound`: what every step keeps. A file at a place that a save has reached is one of the latest
  run, or it was forgotten.
* `Course.pass_files`: after a pass that gives a result, what is left of earlier passes is the run's own,
  or it was forgotten by a save that was stopped.
-/

namespace DisplayGen

/-- A save of a session: the run, the disk that the save has left, and whether it succeeded. -/
structure Attempt where
  run : Run
  left : Disk
  saved : Bool

namespace Attempt

/-- The place is that of an artifact of the run, and was found when the save ended. -/
def Reached (e : Attempt) (dir : String) (q : List String) : Prop :=
  ∃ a ∈ e.run.artifacts, e.left.locate (joinPaths dir a.name) = .ok q

/-- A save that was stopped had to remove what stands at the place, and none since has had an artifact
there. -/
def Forgotten (es : List Attempt) (dir : String) (q : List String) : Prop :=
  ∃ before e after, es = before ++ e :: after ∧ e.saved = false ∧ e.run.Drops e.left dir q ∧
    ∀ e' ∈ e :: after, ¬ e'.Reached dir q

variable {e : Attempt} {es : List Attempt} {dir : String} {q : List String}

theorem Forgotten.concat (h : Forgotten es dir q) (he : ¬ e.Reached dir q) :
    Forgotten (es ++ [e]) dir q := by
  obtain ⟨before, e₁, after, rfl, hstopped, hdrops, hnone⟩ := h
  refine ⟨before, e₁, after ++ [e], ?_, hstopped, hdrops, ?_⟩
  · rw [List.append_assoc, List.cons_append]
  · rw [← List.cons_append]
    exact List.forall_mem_append.2 ⟨hnone, List.forall_mem_singleton.2 he⟩

theorem Forgotten.of_concat (h : Forgotten (es ++ [e]) dir q) (he : e.saved = true) :
    Forgotten es dir q := by
  obtain ⟨before, e₁, after, heq, hstopped, hdrops, hnone⟩ := h
  rcases concat_eq_append_cons heq with ⟨-, rfl, -⟩ | ⟨after, rfl, rfl⟩
  · rw [he] at hstopped
    cases hstopped
  · refine ⟨before, e₁, after, rfl, hstopped, hdrops, fun e' he' => hnone e' ?_⟩
    rw [← List.cons_append]
    exact List.mem_append_left _ he'

theorem forgotten_last (hstopped : e.saved = false) (hdrops : e.run.Drops e.left dir q)
    (he : ¬ e.Reached dir q) : Forgotten (es ++ [e]) dir q :=
  ⟨es, e, [], rfl, hstopped, hdrops, List.forall_mem_singleton.2 he⟩

end Attempt

/-- Where a session has come: the disk, the session, and the saves that it has begun. -/
structure Course where
  disk : Disk
  session : Session
  attempts : List Attempt

namespace Course

/-- A save of the session has reached the place. -/
def Covers (w : Course) (dir : String) (q : List String) : Prop :=
  ∃ e ∈ w.attempts, e.Reached dir q

/-- The file at the place was there before, and is still found under the names that led to it. -/
def Stays (d d' : Disk) (dir : String) (q : List String) : Prop :=
  d.HasFile q ∧ ∀ n, d.locate (joinPaths dir n) = .ok q → d'.locate (joinPaths dir n) = .ok q

/-- The steps that a session of a project can take, and what happens between them. -/
inductive From (p : Project) : Course → Prop where
  | opened {d : Disk} {s : Session} (h : Session.start d p = .ok s) : From p ⟨d, s, []⟩
  /-- Anything changes, but where the session has put files, no others are put. -/
  | edit {w : Course} (h : From p w) {d : Disk}
      (stays : ∀ q, w.Covers p.outputDir q → d.HasFile q → Stays w.disk d p.outputDir q) :
      From p { w with disk := d }
  /-- A pass gives a result. -/
  | passed {w : Course} {r : Run} (h : From p w)
      (hr : (w.session.pass w.disk).result = .ok r) :
      From p ⟨(w.session.pass w.disk).disk, (w.session.pass w.disk).session,
        w.attempts ++ [⟨r, (w.session.pass w.disk).disk, true⟩]⟩
  /-- A pass fails before it saves. -/
  | failed {w : Course} (h : From p w) (hr : w.session.generates w.disk = none) :
      From p { w with session := (w.session.pass w.disk).session }
  /-- A pass is stopped while it saves: what it has put by then are outputs of its run. -/
  | stopped {w : Course} {r : Run} (h : From p w) (hr : w.session.generates w.disk = some r)
      (left : Disk) (stays : ∀ q, left.HasFile q →
        Stays w.disk left p.outputDir q ∨ r.Puts left p.outputDir q) :
      From p ⟨left, (w.session.pass w.disk).session, w.attempts ++ [⟨r, left, false⟩]⟩

end Course

namespace Course

variable {p : Project} {w : Course} {r : Run} {q : List String}

/-- The generator holds the generation of the latest attempt, and all attempts are of its marker. -/
structure Holds (g : Generator) (es : List Attempt) : Prop where
  named : g.Named
  marker : ∀ e ∈ es, e.run.marker.name = g.marker.artifactName
  cache : ∀ e, es.getLast? = some e →
    g.cache = Cache.ofList e.run.generated ∧ (e.run.generated.map Generated.key).Nodup

/-- What every step keeps. -/
structure Sound (p : Project) (w : Course) : Prop where
  project : w.session.project = p
  holds : Holds w.session.generator w.attempts
  /-- A file at a place that the session has reached is one of the latest attempt, or was forgotten. -/
  accounted : ∀ q, w.disk.HasFile q → w.Covers p.outputDir q →
    (∃ e, w.attempts.getLast? = some e ∧ e.run.Puts w.disk p.outputDir q) ∨
      Attempt.Forgotten w.attempts p.outputDir q

namespace Holds

variable {g : Generator} {es : List Attempt} {c : Crate}

theorem run_ok (h : Holds g es) (hr : (g.run c).result = .ok r) (left : Disk) (saved : Bool) :
    Holds (g.run c).generator (es ++ [⟨r, left, saved⟩]) where
  named := h.named.run c
  marker := by
    rw [Generator.run_marker]
    exact List.forall_mem_append.2
      ⟨h.marker, List.forall_mem_singleton.2 (Generator.run_marker_name hr)⟩
  cache e he := by
    obtain ⟨hkeys, -, hcache⟩ := Generator.run_makes hr
    rw [List.getLast?_concat] at he
    cases he
    exact ⟨hcache, hkeys⟩

theorem run_error {e : GenerationError} (h : Holds g es) (hr : (g.run c).result = .error e) :
    Holds (g.run c).generator es := by
  obtain ⟨tally, hgenerator⟩ := Generator.run_error hr
  rw [hgenerator]
  exact ⟨h.named, h.marker, h.cache⟩

/-- What the latest attempt has put, a run puts again or drops. -/
theorem puts_or_drops (h : Holds g es) (hr : (g.run c).result = .ok r) {e : Attempt} {d d' : Disk}
    {dir : String} (he : es.getLast? = some e) (hputs : e.run.Puts d dir q)
    (hlocate : ∀ n, d.locate (joinPaths dir n) = .ok q → d'.locate (joinPaths dir n) = .ok q) :
    r.Puts d' dir q ∨ ∃ n ∈ r.removed, d.locate (joinPaths dir n) = .ok q := by
  obtain ⟨hcache, hkeys⟩ := h.cache e he
  obtain ⟨n, hn, hq⟩ := hputs
  rcases Run.mem_outputs.1 hn with ⟨x, hx, rfl⟩ | rfl | rfl
  · have hentry : x ∈ g.cache.entries := by
      rw [hcache]
      exact (Cache.entries_ofList_perm hkeys).mem_iff.2 hx
    rcases h.named.name_mem_or hr hentry with hname | hname
    · obtain ⟨y, hy, heq⟩ := List.mem_map.1 hname
      exact .inl ⟨_, Run.generated_mem_outputs hy, heq ▸ hlocate _ hq⟩
    · exact .inr ⟨_, hname, hq⟩
  · have hname : e.run.marker.name = r.marker.name := by
      rw [h.marker e (List.mem_of_getLast? he), Generator.run_marker_name hr]
    exact .inl ⟨_, Run.marker_mem_outputs, hname ▸ hlocate _ hq⟩
  · exact .inl ⟨_, Run.fileName_mem_outputs, hlocate _ hq⟩

end Holds

namespace Sound

theorem edit (h : Sound p w) {d : Disk}
    (stays : ∀ q, w.Covers p.outputDir q → d.HasFile q → Stays w.disk d p.outputDir q) :
    Sound p { w with disk := d } where
  project := h.project
  holds := h.holds
  accounted q hfile hcovers := by
    obtain ⟨hbefore, hlocate⟩ := stays q hcovers hfile
    rcases h.accounted q hbefore hcovers with ⟨e, he, n, hn, hq⟩ | hforgotten
    · exact .inl ⟨e, he, n, hn, hlocate n hq⟩
    · exact .inr hforgotten

/-- What becomes of the places that the session has reached, when a run is saved or its save is stopped:
a file there is one of the run's, or was forgotten, or it stood there before and the run drops it. -/
theorem accounted_concat (h : Sound p w) {c : Crate}
    (hr : (w.session.generator.run c).result = .ok r) {left : Disk} {saved : Bool}
    (hcovers : Covers ⟨left, w.session, w.attempts ++ [⟨r, left, saved⟩]⟩ p.outputDir q)
    (hbefore : Stays w.disk left p.outputDir q ∨ r.Puts left p.outputDir q) :
    r.Puts left p.outputDir q ∨
      Attempt.Forgotten (w.attempts ++ [⟨r, left, saved⟩]) p.outputDir q ∨
      ∃ n ∈ r.removed, w.disk.locate (joinPaths p.outputDir n) = .ok q := by
  by_cases hputs : r.Puts left p.outputDir q
  · exact .inl hputs
  obtain ⟨hfile, hlocate⟩ := hbefore.resolve_right hputs
  have hreached : ∀ saved, ¬ (⟨r, left, saved⟩ : Attempt).Reached p.outputDir q := by
    rintro saved ⟨a, ha, hq⟩
    exact hputs ⟨a.name, Run.name_mem_outputs ha, hq⟩
  obtain ⟨e, he, hq⟩ := hcovers
  rcases List.mem_append.1 he with he | he
  · rcases h.accounted q hfile ⟨e, he, hq⟩ with ⟨e', he', hlatest⟩ | hforgotten
    · exact (h.holds.puts_or_drops hr he' hlatest hlocate).imp_right .inr
    · exact .inr (.inl (hforgotten.concat (hreached saved)))
  · rw [List.mem_singleton.1 he] at hq
    exact absurd hq (hreached saved)

theorem passed (h : Sound p w) (hr : (w.session.pass w.disk).result = .ok r) :
    Sound p ⟨(w.session.pass w.disk).disk, (w.session.pass w.disk).session,
      w.attempts ++ [⟨r, (w.session.pass w.disk).disk, true⟩]⟩ := by
  obtain ⟨c, -, hrun, hsession, hsave⟩ := Session.pass_ok hr
  have hsaved := Run.save_ok hsave
  rw [h.project] at hsaved
  refine ⟨(Session.pass_project _ _).trans h.project, ?_, fun q hfile hcovers => ?_⟩
  · rw [hsession]
    exact h.holds.run_ok hrun _ _
  · have hbefore : Stays w.disk (w.session.pass w.disk).disk p.outputDir q ∨
        r.Puts (w.session.pass w.disk).disk p.outputDir q :=
      (hsaved.moves.origin q hfile).imp_left fun hold => ⟨hold, fun n => hsaved.moves.later.locate⟩
    rcases h.accounted_concat hrun hcovers hbefore with hputs | hforgotten | hdrops
    · exact .inl ⟨_, List.getLast?_concat, hputs⟩
    · exact .inr hforgotten
    · refine .inl ⟨_, List.getLast?_concat, _, Run.fileName_mem_outputs, hsaved.gone q hdrops hfile⟩

theorem failed (h : Sound p w) (hr : w.session.generates w.disk = none) :
    Sound p { w with session := (w.session.pass w.disk).session } := by
  refine ⟨(Session.pass_project _ _).trans h.project, ?_, h.accounted⟩
  rcases Session.generates_eq_none hr with hsession | ⟨c, e, hrun, hsession⟩
  · rw [hsession]
    exact h.holds
  · rw [hsession]
    exact h.holds.run_error hrun

theorem stopped (h : Sound p w) (hr : w.session.generates w.disk = some r) (left : Disk)
    (stays : ∀ q, left.HasFile q → Stays w.disk left p.outputDir q ∨ r.Puts left p.outputDir q) :
    Sound p ⟨left, (w.session.pass w.disk).session, w.attempts ++ [⟨r, left, false⟩]⟩ := by
  obtain ⟨c, -, -, hrun, hsession, -⟩ := Session.generates_eq_some hr
  refine ⟨(Session.pass_project _ _).trans h.project, ?_, fun q hfile hcovers => ?_⟩
  · rw [hsession]
    exact h.holds.run_ok hrun _ _
  by_cases hputs : r.Puts left p.outputDir q
  · exact .inl ⟨_, List.getLast?_concat, hputs⟩
  have hstays := (stays q hfile).resolve_right hputs
  rcases h.accounted_concat hrun hcovers (.inl hstays) with hputs | hforgotten | ⟨n, hn, hq⟩
  · exact .inl ⟨_, List.getLast?_concat, hputs⟩
  · exact .inr hforgotten
  · -- the run was to remove the file: this is where it is forgotten
    refine .inr (Attempt.forgotten_last rfl ⟨n, hn, hstays.2 n hq⟩ ?_)
    rintro ⟨a, ha, hq⟩
    exact hputs ⟨a.name, Run.name_mem_outputs ha, hq⟩

end Sound

namespace From

theorem sound (h : From p w) : w.Sound p := by
  induction h with
  | opened h =>
    refine ⟨(Session.start_ok h).1, ⟨Session.named_start h, ?_, ?_⟩, ?_⟩
    · intro e he
      cases he
    · intro e he
      cases he
    · rintro q - ⟨e, he, -⟩
      cases he
  | edit _ stays ih => exact ih.edit stays
  | passed _ hr ih => exact ih.passed hr
  | failed _ hr ih => exact ih.failed hr
  | stopped _ hr left stays ih => exact ih.stopped hr left stays

/-- Whatever a pass gives, what it leaves is one of the situations that a session can come to. -/
theorem after_pass (h : From p w) : ∃ w', From p w' ∧ w'.disk = (w.session.pass w.disk).disk ∧
    w'.session = (w.session.pass w.disk).session := by
  cases hr : (w.session.pass w.disk).result with
  | ok r => exact ⟨_, h.passed hr, rfl, rfl⟩
  | error e =>
    cases hrun : w.session.generates w.disk with
    | none => exact ⟨_, h.failed hrun, (Session.pass_disk hrun).symm, rfl⟩
    | some r =>
      obtain ⟨c, saved, -, -, -, hsave⟩ := Session.generates_eq_some hrun
      have hmoves := Run.save_moves hsave
      rw [h.sound.project] at hmoves
      refine ⟨_, h.stopped hrun (w.session.pass w.disk).disk fun q hfile => ?_, rfl, rfl⟩
      exact (hmoves.origin q hfile).imp_left fun hold => ⟨hold, fun n => hmoves.later.locate⟩

/-- After a pass that gives a result, all its artifacts are found. A file at a place that an earlier save
of the session has reached is an output of the run, or a save that was stopped had to remove it, and none
since has had an artifact there. -/
theorem pass_files (h : From p w) (hr : (w.session.pass w.disk).result = .ok r) :
    (∀ a ∈ r.artifacts, ∃ q,
      (w.session.pass w.disk).disk.locate (joinPaths p.outputDir a.name) = .ok q) ∧
    ∀ q, w.Covers p.outputDir q → (w.session.pass w.disk).disk.HasFile q →
      r.Puts (w.session.pass w.disk).disk p.outputDir q ∨
        Attempt.Forgotten w.attempts p.outputDir q := by
  have hsound := h.sound
  obtain ⟨c, -, -, -, hsave⟩ := Session.pass_ok hr
  rw [hsound.project] at hsave
  have hsaved := Run.save_ok hsave
  constructor
  · intro a ha
    obtain ⟨q, hq, -⟩ := hsaved.found a.name (Run.name_mem_outputs ha)
    exact ⟨q, hq⟩
  · rintro q ⟨e, he, hreached⟩ hfile
    rcases (h.passed hr).sound.accounted q hfile ⟨e, List.mem_append_left _ he, hreached⟩ with
      ⟨e', he', hputs⟩ | hforgotten
    · rw [List.getLast?_concat] at he'
      cases he'
      exact .inl hputs
    · exact .inr (hforgotten.of_concat rfl)

end From

/-- Writing to a file that is there is an edit. -/
theorem stays_of_write {d d' : Disk} {path text : String} (h : d.write path text = .ok d')
    (hthere : ∃ q, d.locate path = .ok q ∧ d.HasFile q) (dir : String) :
    ∀ q, d'.HasFile q → Stays d d' dir q := by
  have hmoves := Disk.write_moves h
  intro q hfile
  refine ⟨?_, fun n => hmoves.later.locate⟩
  rcases hmoves.origin q hfile with hfile | hq
  · exact hfile
  · obtain ⟨q', hq', hfile'⟩ := hthere
    rw [hmoves.later.locate hq'] at hq
    cases hq
    exact hfile'

/-- Two passes of a session, with a text written to a file between them, and the names that the first has
emitted and the second removed. -/
def twoPasses (s : Session) (d : Disk) (path text : String) : Option (List String × List String) := do
  let r₁ ← (s.pass d).result.toOption
  let _ ← ((s.pass d).disk.readText path).toOption
  let d₁ ← ((s.pass d).disk.write path text).toOption
  let r ← ((s.pass d).session.pass d₁).result.toOption
  return (r₁.emitted, r.removed)

theorem from_twoPasses {s : Session} {d : Disk} {path text : String} {emitted removed : List String}
    (hstart : Session.start d p = .ok s)
    (h : twoPasses s d path text = some (emitted, removed)) : ∃ (w : Course) (r : Run), From p w ∧
      w.attempts.map (·.run.emitted) = [emitted] ∧ (w.session.pass w.disk).result = .ok r ∧
        r.removed = removed := by
  obtain ⟨r₁, hr₁, h⟩ := Option.bind_eq_some_iff.1 h
  obtain ⟨text, htext, h⟩ := Option.bind_eq_some_iff.1 h
  obtain ⟨d₁, hd₁, h⟩ := Option.bind_eq_some_iff.1 h
  obtain ⟨r, hr, hnames⟩ := Option.bind_eq_some_iff.1 h
  obtain ⟨hemitted, hremoved⟩ := Prod.mk.inj (Option.some.inj hnames)
  have hstays := stays_of_write (toOption_eq_some hd₁)
    (Disk.hasFile_of_readText (toOption_eq_some htext)) p.outputDir
  have hcourse := ((From.opened hstart).passed (toOption_eq_some hr₁)).edit fun q _ => hstays q
  exact ⟨_, r, hcourse, congrArg ([·]) hemitted, toOption_eq_some hr, hremoved⟩

/-- A pass after which the struct of the first one is gone. -/
theorem pass_files_gone : ∃ (w : Course) (r : Run), From .oneStruct w ∧
    w.attempts.map (·.run.emitted) = [["d.P.g.rs"]] ∧ r.removed = ["d.P.g.rs"] ∧
    ∀ q, w.Covers Project.oneStruct.outputDir q → (w.session.pass w.disk).disk.HasFile q →
      r.Puts (w.session.pass w.disk).disk Project.oneStruct.outputDir q ∨
        Attempt.Forgotten w.attempts Project.oneStruct.outputDir q := by
  have hforetold : (Session.oneStruct.foretellTwice? (.plain "M") .oneStruct "w/s/lib.rs" "").map
      (fun ((d', r), (_, r₁)) => ((d'.readText "w/s/lib.rs").toOption, r.emitted, r₁.removed)) =
        some (some "#[M]struct P{pub x:u8}", ["d.P.g.rs"], ["d.P.g.rs"]) := by decide +kernel
  have hpasses : twoPasses .oneStruct .oneStruct "w/s/lib.rs" "" = some (["d.P.g.rs"], ["d.P.g.rs"]) := by
    obtain ⟨⟨⟨d', r⟩, ⟨d₁, r₁⟩⟩, hf, h⟩ := Option.map_eq_some_iff.1 hforetold
    obtain ⟨htext, hnames⟩ := Prod.mk.inj h
    obtain ⟨hr, hdisk, hwrite, hr₁⟩ :=
      Session.passes_of_foretellTwice? Session.consistent_oneStruct rfl rfl hf
    unfold twoPasses
    rw [hr, hdisk, hwrite, htext, ← hnames]
    refine Option.bind_eq_some_iff.2 ⟨r, rfl, Option.bind_eq_some_iff.2 ⟨_, rfl, ?_⟩⟩
    exact Option.bind_eq_some_iff.2 ⟨d₁, rfl, Option.bind_eq_some_iff.2 ⟨r₁, by rw [hr₁]; rfl, rfl⟩⟩
  obtain ⟨w, r, hcourse, hemitted, hr, hremoved⟩ := from_twoPasses Session.start_oneStruct hpasses
  exact ⟨w, r, hcourse, hemitted, hremoved, (hcourse.pass_files hr).2⟩

end Course

end DisplayGen
