import DisplayGen.Proofs.Generator.Names
import DisplayGen.Proofs.Generator.Saved
import DisplayGen.Proofs.Session

/-!
# Files over many rounds

In a round a session is started for a project, and makes one pass. `Rounds crateName dir d₀ es d`: the
rounds `es`, each of which gave a result, have led from `d₀` to `d`. They share the name of the crate and
the output directory; sources and settings may change between them.

A round knows of the one before it what the manifest tells. It comes back to the names of artifacts that
have its own extension, and never to the marker's file. So a change of settings leaves files over, and no
later round comes back to them either.

* `Rounds.Sound`: what every step keeps.
* `Rounds.files`: of all files that rounds have put, the last one's own are there, and those that were left
  over.
-/

namespace DisplayGen

/-- A round that gave a result: its project, its run, and the disk that it has left. -/
structure Round where
  project : Project
  run : Run
  left : Disk

namespace Round

def extension (e : Round) : String := e.project.config.artifactExtension

/-- The round was made on the disk: the settings passed their checks, and the first pass of a session that
was started there gave the run. -/
structure MadeOn (crateName dir : String) (d : Disk) (e : Round) : Prop where
  crate : e.project.crateName = crateName
  dir : e.project.outputDir = dir
  valid : e.project.config.validate = .ok ()
  pass : ∃ s, Session.start d e.project = .ok s ∧ (s.pass d).result = .ok e.run ∧ (s.pass d).disk = e.left

/-- The place is that of an output of the round. -/
def At (e : Round) (dir : String) (q : List String) : Prop := e.run.Puts e.left dir q

/-- The place is that of an artifact which the round has generated. -/
def Generates (e : Round) (dir : String) (q : List String) : Prop :=
  ∃ x ∈ e.run.generated, e.left.locate (joinPaths dir x.artifact.name) = .ok q

/-- The place is that of the marker's file. -/
def Marks (e : Round) (dir : String) (q : List String) : Prop :=
  e.left.locate (joinPaths dir e.run.marker.name) = .ok q

/-- A round does not look at the place when it cleans up after the one before: the artifact there had
another extension, or it was the marker's file. -/
def Misses (e last : Round) (dir : String) (q : List String) : Prop :=
  last.Generates dir q ∧ e.extension ≠ last.extension ∨ last.Marks dir q ∧ ¬ last.Generates dir q

/-- A round has left a file at the place, the next one has missed it, and none since has put one there. -/
def LeftOver (es : List Round) (dir : String) (q : List String) : Prop :=
  ∃ before e₁ e₂ after, es = before ++ e₁ :: e₂ :: after ∧ e₁.left.HasFile q ∧ e₂.Misses e₁ dir q ∧
    ∀ e ∈ e₂ :: after, ¬ e.At dir q

/-- The last round has left a file of its own at the place. -/
def Latest (es : List Round) (dir : String) (q : List String) : Prop :=
  ∃ e, es.getLast? = some e ∧ e.At dir q ∧ e.left.HasFile q

variable {e last : Round} {es : List Round} {dir : String} {q : List String}

theorem Generates.at (h : e.Generates dir q) : e.At dir q := by
  obtain ⟨x, hx, hq⟩ := h
  exact ⟨_, Run.generated_mem_outputs hx, hq⟩

theorem Misses.at (h : e.Misses last dir q) : last.At dir q := by
  rcases h with ⟨hgenerates, -⟩ | ⟨hmarks, -⟩
  · exact hgenerates.at
  · exact ⟨_, Run.marker_mem_outputs, hmarks⟩

/-- What stands at the place of an output: an artifact, or the marker's file, or the manifest. -/
theorem At.cases (h : e.At dir q) : e.Generates dir q ∨ e.Marks dir q ∨
    e.left.locate (Manifest.pathIn dir) = .ok q := by
  obtain ⟨n, hn, hq⟩ := h
  rcases Run.mem_outputs.1 hn with ⟨x, hx, rfl⟩ | rfl | rfl
  · exact .inl ⟨x, hx, hq⟩
  · exact .inr (.inl hq)
  · exact .inr (.inr hq)

theorem LeftOver.not_at_last (h : LeftOver es dir q) (he : es.getLast? = some e) : ¬ e.At dir q := by
  obtain ⟨before, e₁, e₂, after, rfl, -, -, hnone⟩ := h
  rw [List.getLast?_append_of_ne_nil _ (by simp), List.getLast?_cons_cons] at he
  exact hnone e (List.mem_of_getLast? he)

/-- What is left over when a round puts no file at the place: what was, and what it misses itself. -/
theorem leftOver_concat (he : ¬ e.At dir q) : LeftOver (es ++ [e]) dir q ↔ LeftOver es dir q ∨
    ∃ last, es.getLast? = some last ∧ last.left.HasFile q ∧ e.Misses last dir q := by
  constructor
  · rintro ⟨before, e₁, e₂, after, heq, hfile, hmisses, hnone⟩
    rcases concat_eq_append_cons heq with ⟨-, -, hnil⟩ | ⟨rest, hrest, rfl⟩
    · cases hnil
    · cases rest with
      | nil =>
        obtain ⟨rfl, -⟩ := List.cons.inj hrest
        exact .inr ⟨e₁, List.getLast?_concat, hfile, hmisses⟩
      | cons e₃ rest =>
        obtain ⟨rfl, rfl⟩ := List.cons.inj hrest
        refine .inl ⟨before, e₁, e₂, rest, rfl, hfile, hmisses, fun e' he' => hnone e' ?_⟩
        change e' ∈ (e₂ :: rest) ++ [e]
        exact List.mem_append_left _ he'
  · rintro (⟨before, e₁, e₂, after, rfl, hfile, hmisses, hnone⟩ | ⟨last, hlast, hfile, hmisses⟩)
    · refine ⟨before, e₁, e₂, after ++ [e], by simp, hfile, hmisses, ?_⟩
      rw [← List.cons_append]
      exact List.forall_mem_append.2 ⟨hnone, List.forall_mem_singleton.2 he⟩
    · obtain ⟨before, rfl⟩ := List.getLast?_eq_some_iff.1 hlast
      exact ⟨before, last, e, [], by simp, hfile, hmisses, List.forall_mem_singleton.2 he⟩

theorem latest_concat : Latest (es ++ [e]) dir q ↔ e.At dir q ∧ e.left.HasFile q := by
  unfold Latest
  rw [List.getLast?_concat]
  simp

end Round

/-- Rounds for one crate and one output directory that have led from one disk to another. -/
inductive Rounds (crateName dir : String) (d₀ : Disk) : List Round → Disk → Prop where
  | start : Rounds crateName dir d₀ [] d₀
  /-- Anything changes but the manifest, and what stands in the places of the rounds' outputs. -/
  | edit {es : List Round} {d d' : Disk} (h : Rounds crateName dir d₀ es d)
      (manifest : d'.textIn dir Manifest.fileName = d.textIn dir Manifest.fileName)
      (keeps : ∀ e ∈ es, ∀ n ∈ e.run.outputs, ∀ q, d.locate (joinPaths dir n) = .ok q →
        d'.locate (joinPaths dir n) = .ok q ∧ d'.contentAt q = d.contentAt q) :
      Rounds crateName dir d₀ es d'
  | round {es : List Round} {d : Disk} {e : Round} (h : Rounds crateName dir d₀ es d)
      (he : e.MadeOn crateName dir d) : Rounds crateName dir d₀ (es ++ [e]) e.left

/-! ## One round -/

namespace Round

variable {crateName dir : String} {d : Disk} {e : Round}

/-- What is known of a round by itself. -/
structure Proper (crateName : String) (e : Round) : Prop where
  extension : '.' ∉ e.extension.toList
  keys : (e.run.generated.map Generated.key).Nodup
  names : ∀ x ∈ e.run.generated, x.artifact.name = x.summary.artifactName e.extension
  marker : ∃ m, Marker.parse e.project.config.markerPath = .ok m ∧
    m.definition = .ok e.run.marker ∧ (Text.isWord crateName.toList = true →
      ∀ x ∈ e.run.generated, x.summary.Belongs crateName m)

/-- The keys that a round generates for, if the marker's path has no slashes. -/
theorem Proper.key (h : e.Proper crateName) (hword : Text.isWord crateName.toList = true)
    (hpath : Unslashed e.project.config.markerPath) {x : Generated} (hx : x ∈ e.run.generated) :
    Unslashed x.summary.key ∧ ∃ t, x.summary.key.toList = crateName.toList ++ '.' :: t := by
  obtain ⟨m, hparse, -, hbelongs⟩ := h.marker
  have hx := hbelongs hword x hx
  exact ⟨hx.unslashed (Marker.unslashed_module hparse hpath), hx.key_eq hword⟩

namespace MadeOn

theorem proper (h : e.MadeOn crateName dir d) : e.Proper crateName := by
  obtain ⟨s, hs, hr, -⟩ := h.pass
  obtain ⟨c, hload, hrun, -, -⟩ := Session.pass_ok hr
  obtain ⟨hmarker, hextension⟩ := Session.start_settings hs
  obtain ⟨marked, progress, hsteps⟩ := Generator.run_ok hrun
  obtain ⟨hkeys, hmakes, -⟩ := Generator.run_makes hrun
  rw [(Session.start_ok hs).1] at hload
  refine ⟨Config.extension_of_validate h.valid, hkeys, fun x hx => ?_, s.generator.marker, hmarker,
    hsteps.definition, fun hword => ?_⟩
  · rw [(hmakes x hx).name_eq (Session.named_start hs), hextension]
    rfl
  · rw [← h.crate] at hword ⊢
    exact Project.run_belongs hmarker hword hload hrun

theorem saved (h : e.MadeOn crateName dir d) : e.run.Saved dir d e.left ∧
    e.left.textIn dir Manifest.fileName = some (e.run.manifest crateName e.extension).toText := by
  obtain ⟨s, hs, hr, hleft⟩ := h.pass
  obtain ⟨c, -, -, -, hsave⟩ := Session.pass_ok hr
  rw [(Session.start_ok hs).1, h.crate, h.dir, hleft] at hsave
  exact ⟨Run.save_ok hsave, congrArg Except.toOption (Run.save_manifest hsave)⟩

/-- No name that is removed is one that was generated. -/
theorem not_mem_removed (h : e.MadeOn crateName dir d) {x : Generated} (hx : x ∈ e.run.generated) :
    x.artifact.name ∉ e.run.removed := by
  obtain ⟨s, hs, hr, -⟩ := h.pass
  obtain ⟨c, -, hrun, -, -⟩ := Session.pass_ok hr
  exact (Session.named_start hs).not_mem_removed hrun hx

/-- Without a manifest, nothing is removed. -/
theorem removed_eq_nil (h : e.MadeOn crateName dir d)
    (hnone : d.textIn dir Manifest.fileName = none) : e.run.removed = [] := by
  obtain ⟨s, hs, hr, -⟩ := h.pass
  obtain ⟨c, -, hrun, -, -⟩ := Session.pass_ok hr
  rw [← h.dir] at hnone
  have hempty := (Generator.consistent_create (Session.start_none hnone hs)).cache
  refine List.eq_nil_iff_forall_not_mem.2 fun n hn => ?_
  obtain ⟨y, hy, -⟩ := (Generator.mem_removed hrun).1 hn
  rw [hempty] at hy
  cases hy

section

variable {last : Round} (h : e.MadeOn crateName dir d) (hlast : last.Proper crateName)
  (hmanifest : d.textIn dir Manifest.fileName =
    some (last.run.manifest crateName last.extension).toText)

include h hlast hmanifest

/-- A name that is removed is one that the round before has generated, with the same extension. -/
theorem of_mem_removed {n : String} (hn : n ∈ e.run.removed) :
    e.extension = last.extension ∧ ∃ x ∈ last.run.generated, x.artifact.name = n := by
  obtain ⟨s, hs, hr, -⟩ := h.pass
  obtain ⟨c, -, hrun, -, -⟩ := Session.pass_ok hr
  rw [← h.dir, ← h.crate] at hmanifest
  obtain ⟨g, hempty, hextension, hg⟩ := Session.start_recorded hmanifest hs
  rw [hg] at hrun
  obtain ⟨hsame, x, hx, hname⟩ := Generator.removed_of_recorded hempty hrun hn
  refine ⟨hextension.symm.trans hsame, x, hx, ?_⟩
  rw [hlast.names x hx, hname]

/-- With the same extension, each name whose text is still there is generated again or removed. -/
theorem name_mem_or (hextension : e.extension = last.extension) {x : Generated}
    (hx : x ∈ last.run.generated) {text : String} (htext : d.textIn dir x.artifact.name = some text) :
    x.artifact.name ∈ e.run.generated.map (·.artifact.name) ∨ x.artifact.name ∈ e.run.removed := by
  obtain ⟨s, hs, hr, -⟩ := h.pass
  obtain ⟨c, -, hrun, -, -⟩ := Session.pass_ok hr
  rw [← h.dir, ← h.crate] at hmanifest
  rw [← h.dir] at htext
  obtain ⟨g, hempty, hg', hg⟩ := Session.start_recorded hmanifest hs
  rw [hg] at hrun
  rw [hlast.names x hx] at htext ⊢
  exact Generator.name_mem_or_of_recorded hempty hrun (hg'.trans hextension) hlast.keys hx htext

end

end MadeOn

end Round

/-! ## Many rounds -/

namespace Rounds

variable {crateName dir : String} {d₀ d d' : Disk} {e last : Round} {es : List Round} {q : List String}

/-- Names that do not get in each other's way: the crate is not named as markers' files begin, and the
paths of markers have no slashes. -/
structure Regular (crateName : String) (es : List Round) : Prop where
  crate : Text.isWord crateName.toList = true
  crate_ne : crateName ≠ "__strgen_marker"
  paths : ∀ e ∈ es, Unslashed e.project.config.markerPath

/-- What every step keeps. -/
structure Sound (crateName dir : String) (d₀ : Disk) (es : List Round) (d : Disk) : Prop where
  proper : ∀ e ∈ es, e.Proper crateName
  /-- The outputs of all rounds are still found where they were. -/
  placed : ∀ e ∈ es, ∀ n ∈ e.run.outputs, ∃ q,
    e.left.locate (joinPaths dir n) = .ok q ∧ d.locate (joinPaths dir n) = .ok q
  hasFile_iff : ∀ q, (∃ e ∈ es, e.At dir q) →
    (d.HasFile q ↔ Round.Latest es dir q ∨ Round.LeftOver es dir q)
  unrecorded : es = [] → d.textIn dir Manifest.fileName = d₀.textIn dir Manifest.fileName
  recorded : ∀ e, es.getLast? = some e →
    d.textIn dir Manifest.fileName = some (e.run.manifest crateName e.extension).toText
  legible : ∀ e, es.getLast? = some e → ∀ x ∈ e.run.generated, ∀ q,
    d.locate (joinPaths dir x.artifact.name) = .ok q → d.Legible q
  complete : d₀.textIn dir Manifest.fileName = none → Regular crateName es →
    ∀ e, es.getLast? = some e → ∀ n ∈ e.run.outputs, ∃ q,
      d.locate (joinPaths dir n) = .ok q ∧ d.HasFile q

namespace Sound

theorem locate (h : Sound crateName dir d₀ es d) (he : e ∈ es) {n : String} (hn : n ∈ e.run.outputs) :
    e.left.locate (joinPaths dir n) = .ok q ↔ d.locate (joinPaths dir n) = .ok q := by
  obtain ⟨q', hleft, hd⟩ := h.placed e he n hn
  rw [hleft, hd]

theorem start (d₀ : Disk) : Sound crateName dir d₀ [] d₀ where
  proper _ he := nomatch he
  placed _ he := nomatch he
  hasFile_iff _ hq := by
    obtain ⟨e, he, -⟩ := hq
    cases he
  unrecorded _ := rfl
  recorded _ he := nomatch he
  legible _ he := nomatch he
  complete _ _ _ he := nomatch he

theorem edit (h : Sound crateName dir d₀ es d)
    (manifest : d'.textIn dir Manifest.fileName = d.textIn dir Manifest.fileName)
    (keeps : ∀ e ∈ es, ∀ n ∈ e.run.outputs, ∀ q, d.locate (joinPaths dir n) = .ok q →
      d'.locate (joinPaths dir n) = .ok q ∧ d'.contentAt q = d.contentAt q) :
    Sound crateName dir d₀ es d' where
  proper := h.proper
  placed e he n hn := by
    obtain ⟨q, hleft, hq⟩ := h.placed e he n hn
    exact ⟨q, hleft, (keeps e he n hn q hq).1⟩
  hasFile_iff q hq := by
    obtain ⟨e, he, n, hn, hleft⟩ := hq
    have hcontent := (keeps e he n hn q ((h.locate he hn).1 hleft)).2
    have hsame : d'.HasFile q ↔ d.HasFile q := by rw [Disk.hasFile_iff, hcontent, Disk.hasFile_iff]
    rw [hsame]
    exact h.hasFile_iff q ⟨e, he, n, hn, hleft⟩
  unrecorded hes := manifest.trans (h.unrecorded hes)
  recorded e he := manifest.trans (h.recorded e he)
  legible e he x hx q hq := by
    have hmem := List.mem_of_getLast? he
    have hn := Run.generated_mem_outputs hx
    obtain ⟨q', -, hq'⟩ := h.placed e hmem _ hn
    obtain ⟨hlocate, hcontent⟩ := keeps e hmem _ hn q' hq'
    rw [hlocate] at hq
    cases hq
    unfold Disk.Legible
    rw [hcontent]
    exact h.legible e he x hx q hq'
  complete hnone hregular e he n hn := by
    obtain ⟨q, hq, hfile⟩ := h.complete hnone hregular e he n hn
    obtain ⟨hlocate, hcontent⟩ := keeps e (List.mem_of_getLast? he) n hn q hq
    refine ⟨q, hlocate, Disk.hasFile_iff.2 ?_⟩
    rw [hcontent]
    exact Disk.hasFile_iff.1 hfile

/-- The round before has put a file that is still there after a round which has put none: it was missed. -/
theorem misses (h : Sound crateName dir d₀ es d) (he : e.MadeOn crateName dir d)
    (hlast : es.getLast? = some last) (hat : last.At dir q) (hbefore : d.HasFile q)
    (hfile : e.left.HasFile q) (hnone : ¬ e.At dir q) : e.Misses last dir q := by
  have hmem := List.mem_of_getLast? hlast
  obtain ⟨hsaved, -⟩ := he.saved
  by_cases hgenerates : last.Generates dir q
  · refine .inl ⟨hgenerates, fun hextension => hnone ?_⟩
    obtain ⟨x, hx, hleft⟩ := hgenerates
    have hq := (h.locate hmem (Run.generated_mem_outputs hx)).1 hleft
    obtain ⟨text, htext⟩ := Disk.exists_readText hq hbefore (h.legible last hlast x hx q hq)
    rcases he.name_mem_or (h.proper last hmem) (h.recorded last hlast) hextension hx
      (congrArg Except.toOption htext) with hname | hname
    · obtain ⟨y, hy, heq⟩ := List.mem_map.1 hname
      rw [← heq] at hq
      exact ⟨_, Run.generated_mem_outputs hy, hsaved.moves.later.locate hq⟩
    · exact ⟨_, Run.fileName_mem_outputs, hsaved.gone q ⟨_, hname, hq⟩ hfile⟩
  · rcases hat.cases with hgenerated | hmarks | hmanifest
    · exact absurd hgenerated hgenerates
    · exact .inr ⟨hmarks, hgenerates⟩
    · have hq := (h.locate hmem Run.fileName_mem_outputs).1 hmanifest
      exact absurd ⟨_, Run.fileName_mem_outputs, hsaved.moves.later.locate hq⟩ hnone

/-- What a round removes stood at the place of an artifact of the round before, with the same extension. -/
theorem of_drops (h : Sound crateName dir d₀ es d) (he : e.MadeOn crateName dir d)
    (hlast : es.getLast? = some last) (hq : e.run.Drops e.left dir q) :
    e.extension = last.extension ∧ last.Generates dir q := by
  have hmem := List.mem_of_getLast? hlast
  obtain ⟨n, hn, hq⟩ := hq
  obtain ⟨hextension, x, hx, rfl⟩ :=
    he.of_mem_removed (h.proper last hmem) (h.recorded last hlast) hn
  obtain ⟨q', hleft, hq'⟩ := h.placed last hmem _ (Run.generated_mem_outputs hx)
  rw [he.saved.1.moves.later.locate hq'] at hq
  cases hq
  exact ⟨hextension, x, hx, hleft⟩

/-- A file stays where the round before has generated nothing with the same extension. -/
theorem hasFile_of_before (h : Sound crateName dir d₀ es d) (he : e.MadeOn crateName dir d)
    (hcovered : ∃ e' ∈ es, e'.At dir q) (hbefore : d.HasFile q) (hother : ∀ last,
      es.getLast? = some last → e.extension = last.extension → ¬ last.Generates dir q) :
    e.left.HasFile q := by
  rcases he.saved.1.moves.fate q hbefore with hfile | hdrops
  · exact hfile
  · obtain ⟨e', hmem, -⟩ := hcovered
    have hlast := List.getLast?_eq_some_getLast (List.ne_nil_of_mem hmem)
    obtain ⟨hextension, hgenerates⟩ := h.of_drops he hlast hdrops
    exact absurd hgenerates (hother _ hlast hextension)

theorem hasFile_round (h : Sound crateName dir d₀ es d) (he : e.MadeOn crateName dir d)
    (hq : ∃ e' ∈ es ++ [e], e'.At dir q) :
    e.left.HasFile q ↔ Round.Latest (es ++ [e]) dir q ∨ Round.LeftOver (es ++ [e]) dir q := by
  obtain ⟨hsaved, -⟩ := he.saved
  rw [Round.latest_concat]
  by_cases hat : e.At dir q
  · constructor
    · exact fun hfile => .inl ⟨hat, hfile⟩
    · rintro (⟨-, hfile⟩ | hleft)
      · exact hfile
      · exact absurd hat (hleft.not_at_last List.getLast?_concat)
  have hcovered : ∃ e' ∈ es, e'.At dir q := by
    obtain ⟨e', he', hat'⟩ := hq
    rcases List.mem_append.1 he' with he' | he'
    · exact ⟨e', he', hat'⟩
    · rw [List.mem_singleton.1 he'] at hat'
      exact absurd hat' hat
  have hiff := h.hasFile_iff q hcovered
  rw [Round.leftOver_concat hat, or_iff_right fun hlatest => hat hlatest.1]
  constructor
  · intro hfile
    have hbefore := (hsaved.moves.origin q hfile).resolve_right hat
    rcases hiff.1 hbefore with ⟨last, hlast, hat', hleft⟩ | hleft
    · exact .inr ⟨last, hlast, hleft, h.misses he hlast hat' hbefore hfile hat⟩
    · exact .inl hleft
  · rintro (hleft | ⟨last, hlast, hleft, hmisses⟩)
    · refine h.hasFile_of_before he hcovered (hiff.2 (.inr hleft)) fun last hlast _ hgenerates => ?_
      exact hleft.not_at_last hlast hgenerates.at
    · refine h.hasFile_of_before he hcovered (hiff.2 (.inl ⟨last, hlast, hmisses.at, hleft⟩))
        fun last' hlast' hextension hgenerates => ?_
      rw [hlast] at hlast'
      cases hlast'
      rcases hmisses with ⟨-, hother⟩ | ⟨-, hnot⟩
      · exact hother hextension
      · exact hnot hgenerates

/-- After a round with regular names, all its files are there. -/
theorem complete_round (h : Sound crateName dir d₀ es d) (he : e.MadeOn crateName dir d)
    (hnone : d₀.textIn dir Manifest.fileName = none) (hregular : Regular crateName (es ++ [e]))
    {n : String} (hn : n ∈ e.run.outputs) :
    ∃ q, e.left.locate (joinPaths dir n) = .ok q ∧ e.left.HasFile q := by
  obtain ⟨hsaved, -⟩ := he.saved
  have hproper := he.proper
  obtain ⟨q, hq, hfile | ⟨n', hn', hq'⟩⟩ := hsaved.found n hn
  · exact ⟨q, hq, hfile⟩
  refine ⟨q, hq, ?_⟩
  rcases List.eq_nil_or_concat es with rfl | ⟨before, last, rfl⟩
  · rw [he.removed_eq_nil ((h.unrecorded rfl).trans hnone)] at hn'
    cases hn'
  rw [List.concat_eq_append] at h hregular
  have hlast : (before ++ [last]).getLast? = some last := List.getLast?_concat
  have hmem := List.mem_of_getLast? hlast
  obtain ⟨hextension, y, hy, rfl⟩ :=
    he.of_mem_removed (h.proper last hmem) (h.recorded last hlast) hn'
  have hpath : ∀ e' ∈ before ++ [last], Unslashed e'.project.config.markerPath :=
    fun e' he' => hregular.paths e' (List.mem_append_left _ he')
  have hpath' := hregular.paths e (List.mem_append_right _ (List.mem_singleton_self _))
  obtain ⟨hkey, hcrate⟩ := (h.proper last hmem).key hregular.crate (hpath last hmem) hy
  have hname := (h.proper last hmem).names y hy
  rw [← hextension] at hname
  rw [hname] at hq'
  rcases Round.At.cases ⟨n, hn, hq⟩ with ⟨x, hx, hleft⟩ | hmarks | hmanifest
  · -- another artifact at its place has its name, and that is not removed
    rw [hproper.names x hx] at hleft
    have heq := Summary.artifactName_eq_of_locate hproper.extension
      (hproper.key hregular.crate hpath' hx).1 hkey hleft hq'
    rw [← hproper.names x hx, ← hname] at heq
    exact absurd (heq ▸ hn') (he.not_mem_removed hx)
  · obtain ⟨m, -, hdefinition, -⟩ := hproper.marker
    unfold Round.Marks at hmarks
    rw [Marker.definition_ok hdefinition] at hmarks
    exact absurd (Summary.crateName_eq_of_locate hregular.crate hcrate hdefinition hproper.extension
      hkey hq' hmarks) hregular.crate_ne
  · obtain ⟨q', hq', hfile⟩ := hsaved.manifest
    rw [hmanifest] at hq'
    cases hq'
    exact hfile

theorem round (h : Sound crateName dir d₀ es d) (he : e.MadeOn crateName dir d) :
    Sound crateName dir d₀ (es ++ [e]) e.left where
  proper := List.forall_mem_append.2 ⟨h.proper, List.forall_mem_singleton.2 he.proper⟩
  placed := by
    obtain ⟨hsaved, -⟩ := he.saved
    refine List.forall_mem_append.2 ⟨fun e' he' n hn => ?_, List.forall_mem_singleton.2 fun n hn => ?_⟩
    · obtain ⟨q, hleft, hq⟩ := h.placed e' he' n hn
      exact ⟨q, hleft, hsaved.moves.later.locate hq⟩
    · obtain ⟨q, hq, -⟩ := hsaved.found n hn
      exact ⟨q, hq, hq⟩
  hasFile_iff q hq := h.hasFile_round he hq
  unrecorded hes := absurd hes (by simp)
  recorded e' he' := by
    rw [List.getLast?_concat] at he'
    cases he'
    exact he.saved.2
  legible e' he' x hx q hq := by
    rw [List.getLast?_concat] at he'
    cases he'
    exact he.saved.1.legible _ (Run.mem_artifacts hx) q hq
  complete hnone hregular e' he' n hn := by
    rw [List.getLast?_concat] at he'
    cases he'
    exact h.complete_round he hnone hregular hn

end Sound

theorem sound (h : Rounds crateName dir d₀ es d) : Sound crateName dir d₀ es d := by
  induction h with
  | start => exact .start d₀
  | edit _ manifest keeps ih => exact ih.edit manifest keeps
  | round _ he ih => exact ih.round he

/-- As long as the settings stay, nothing is left over. -/
theorem Sound.not_leftOver (h : Sound crateName dir d₀ es d) (hsettings : ∀ e ∈ es, ∀ e' ∈ es,
    e.extension = e'.extension ∧ e.project.config.markerPath = e'.project.config.markerPath)
    (q : List String) : ¬ Round.LeftOver es dir q := by
  rintro ⟨before, e₁, e₂, after, rfl, -, hmisses, hnone⟩
  have he₁ : e₁ ∈ before ++ e₁ :: e₂ :: after := List.mem_append_right _ (List.mem_cons_self ..)
  have he₂ : e₂ ∈ before ++ e₁ :: e₂ :: after :=
    List.mem_append_right _ (List.mem_cons_of_mem _ (List.mem_cons_self ..))
  obtain ⟨hextension, hpath⟩ := hsettings e₂ he₂ e₁ he₁
  rcases hmisses with ⟨-, hother⟩ | ⟨hmarks, -⟩
  · exact hother hextension
  · -- both rounds put the marker's file at one place
    obtain ⟨m, hparse, hdefinition, -⟩ := (h.proper e₁ he₁).marker
    obtain ⟨m', hparse', hdefinition', -⟩ := (h.proper e₂ he₂).marker
    rw [hpath, hparse] at hparse'
    cases hparse'
    rw [hdefinition] at hdefinition'
    have hname : e₁.run.marker = e₂.run.marker := Except.ok.inj hdefinition'
    have hq := (h.locate he₁ Run.marker_mem_outputs).1 hmarks
    rw [hname] at hq
    exact hnone e₂ (List.mem_cons_self ..)
      ⟨_, Run.marker_mem_outputs, (h.locate he₂ Run.marker_mem_outputs).2 hq⟩

/-- What is told of the files in the places of the outputs of rounds. -/
structure Files (crateName dir : String) (d₀ : Disk) (es : List Round) (d : Disk) : Prop where
  /-- A file is there if and only if it is one of the last round's own, or it was left over. -/
  hasFile_iff : ∀ q, (∃ e ∈ es, e.At dir q) →
    (d.HasFile q ↔ Round.Latest es dir q ∨ Round.LeftOver es dir q)
  /-- As long as the settings stay, nothing is left over. -/
  settled : (∀ e ∈ es, ∀ e' ∈ es, e.extension = e'.extension ∧
      e.project.config.markerPath = e'.project.config.markerPath) → ∀ q, ¬ Round.LeftOver es dir q
  /-- If there was no manifest at first, and with regular names, all files of the last round are there. -/
  complete : d₀.textIn dir Manifest.fileName = none → Regular crateName es →
    ∀ e, es.getLast? = some e → ∀ n ∈ e.run.outputs, ∃ q,
      d.locate (joinPaths dir n) = .ok q ∧ d.HasFile q

/-- The files of rounds that all gave a result. -/
theorem files (h : Rounds crateName dir d₀ es d) : Files crateName dir d₀ es d :=
  ⟨h.sound.hasFile_iff, h.sound.not_leftOver, h.sound.complete⟩

/-- Two rounds, one for each of two projects: the names that they have emitted, and whether a file with a
name is there in the end. -/
def twoRounds? (d : Disk) (p p' : Project) (name : String) :
    Option (List String × List String × Bool) := do
  let s ← (Session.start d p).toOption
  let r ← (s.pass d).result.toOption
  let s' ← (Session.start (s.pass d).disk p').toOption
  let r' ← (s'.pass (s.pass d).disk).result.toOption
  return (r.emitted, r'.emitted, ((s'.pass (s.pass d).disk).disk.textIn p.outputDir name).isSome)

theorem of_twoRounds? {p p' : Project} {name : String} {emitted emitted' : List String} {there : Bool}
    (h : twoRounds? d p p' name = some (emitted, emitted', there)) (hcrate : p'.crateName = p.crateName)
    (hdir : p'.outputDir = p.outputDir) (hvalid : p.config.validate = .ok ())
    (hvalid' : p'.config.validate = .ok ()) :
    ∃ es d', Rounds p.crateName p.outputDir d es d' ∧
      es.map (·.run.emitted) = [emitted, emitted'] ∧ (d'.textIn p.outputDir name).isSome = there := by
  obtain ⟨s, hs, h⟩ := Option.bind_eq_some_iff.1 h
  obtain ⟨r, hr, h⟩ := Option.bind_eq_some_iff.1 h
  obtain ⟨s', hs', h⟩ := Option.bind_eq_some_iff.1 h
  obtain ⟨r', hr', h⟩ := Option.bind_eq_some_iff.1 h
  obtain ⟨rfl, rfl, rfl⟩ := by simpa using Option.some.inj h
  have hfirst : (⟨p, r, (s.pass d).disk⟩ : Round).MadeOn p.crateName p.outputDir d :=
    ⟨rfl, rfl, hvalid, s, toOption_eq_some hs, toOption_eq_some hr, rfl⟩
  have hsecond : (⟨p', r', (s'.pass (s.pass d).disk).disk⟩ : Round).MadeOn p.crateName p.outputDir
      (s.pass d).disk :=
    ⟨hcrate, hdir, hvalid', s', toOption_eq_some hs', toOption_eq_some hr', rfl⟩
  exact ⟨_, _, (Rounds.start.round hfirst).round hsecond, rfl, rfl⟩

/-- On the record of a run with another extension, a session starts with nothing. -/
theorem start_other {s : Session} (p' : Project) {g : Generator} {r : Run}
    (hr : (s.pass d).result = .ok r) (hcrate : p'.crateName = s.project.crateName)
    (hdir : p'.outputDir = s.project.outputDir)
    (hother : p'.config.artifactExtension ≠ s.project.config.artifactExtension)
    (hg : Generator.create p'.config.markerPath p'.config.artifactExtension = .ok g) :
    Session.start (s.pass d).disk p' = .ok ⟨p', g⟩ := by
  obtain ⟨-, -, -, -, hsave⟩ := Session.pass_ok hr
  have htext := congrArg Except.toOption (Run.save_manifest hsave)
  rw [← hdir] at htext
  have hload := Manifest.load?_eq_some.2 ⟨_, htext, Manifest.read?_toText _⟩
  have hnone : ∀ text?, g.recorded text? (r.manifest s.project.crateName
      s.project.config.artifactExtension) = [] := by
    refine fun text? => List.eq_nil_iff_forall_not_mem.2 fun x hx => hother ?_
    rw [← (Generator.create_ok hg).2]
    exact (Generator.mem_recorded_manifest hx).1
  rw [Session.start_manifest hg hload hcrate.symm, hnone]
  rfl

/-- Two rounds with different extensions: the artifact of the first one is left over. -/
theorem files_extension : ∃ es d,
    Rounds Project.oneStruct.crateName Project.oneStruct.outputDir .oneStruct es d ∧
      es.map (·.run.emitted) = [["d.P.g.rs"], ["d.P.g.txt"]] ∧
      (d.textIn Project.oneStruct.outputDir "d.P.g.rs").isSome = true ∧
      Files Project.oneStruct.crateName Project.oneStruct.outputDir .oneStruct es d := by
  have hvalid' : Config.validate ⟨"crate::M", "s", "o", "txt", 1⟩ = .ok () :=
    toOption_eq_some (by decide +kernel)
  have hg : Generator.create "crate::M" "txt" = .ok ⟨⟨"crate::M", [], "M"⟩, "txt", .empty, .empty⟩ :=
    toOption_eq_some (by decide +kernel)
  have hforetold : (Session.oneStruct.foretell? (.plain "M") .oneStruct).bind (fun o =>
      (Session.foretell? ⟨⟨"w", "d", ⟨"crate::M", "s", "o", "txt", 1⟩, none⟩,
          ⟨⟨"crate::M", [], "M"⟩, "txt", .empty, .empty⟩⟩ (.plain "M") o.2.1).map fun o' =>
        (o.2.2.emitted, o'.2.2.emitted, (o'.2.1.textIn Project.oneStruct.outputDir "d.P.g.rs").isSome)) =
      some (["d.P.g.rs"], ["d.P.g.txt"], true) := by decide +kernel
  have hrounds : twoRounds? .oneStruct .oneStruct ⟨"w", "d", ⟨"crate::M", "s", "o", "txt", 1⟩, none⟩
      "d.P.g.rs" = some (["d.P.g.rs"], ["d.P.g.txt"], true) := by
    obtain ⟨⟨s, d', r⟩, hfirst, h⟩ := Option.bind_eq_some_iff.1 hforetold
    obtain ⟨⟨s', d'', r'⟩, hsecond, hvalue⟩ := Option.map_eq_some_iff.1 h
    obtain ⟨hpass, -⟩ := Session.pass_of_foretell? Session.consistent_oneStruct rfl rfl hfirst
    obtain ⟨hpass', -⟩ :=
      Session.pass_of_foretell? (Generator.consistent_create hg) rfl rfl hsecond
    have hr : (Session.oneStruct.pass .oneStruct).result = .ok r := congrArg PassOutcome.result hpass
    have hstart := start_other ⟨"w", "d", ⟨"crate::M", "s", "o", "txt", 1⟩, none⟩ hr rfl rfl (by decide) hg
    unfold twoRounds?
    rw [Session.start_oneStruct]
    refine Option.bind_eq_some_iff.2 ⟨_, rfl, Option.bind_eq_some_iff.2 ⟨r, by rw [hr]; rfl, ?_⟩⟩
    refine Option.bind_eq_some_iff.2 ⟨_, by rw [hstart]; rfl, Option.bind_eq_some_iff.2 ⟨r', ?_, ?_⟩⟩
    · rw [hpass, hpass']
      rfl
    · rw [hpass, hpass']
      exact congrArg some hvalue
  obtain ⟨es, d, h, hemitted, hthere⟩ := of_twoRounds? hrounds rfl rfl
    Project.validate_oneStruct hvalid'
  exact ⟨es, d, h, hemitted, hthere, files h⟩

end Rounds

end DisplayGen
