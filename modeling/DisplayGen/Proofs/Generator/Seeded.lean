import DisplayGen.Generator.Recorded
import DisplayGen.Proofs.Generator.History
import DisplayGen.Proofs.Manifest
import DisplayGen.Proofs.Marker

/-!
# Generators that start from a record

A generator that is seeded takes the texts on trust: it pairs the summaries of a manifest with
whatever texts it finds.

* `Generated.UpToDate`: behind its first line, the text is what emission gives for the summary now.
* `Serves g₀ g finished`: runs have made `g` out of `g₀`, and `finished` are the generations that they
  have finished.
* `Serves.upToDate_iff`: a run gives a text that is not up to date exactly if `g₀` had such a text for
  the summary, and every generation since has had the summary.
* `recorded_manifest`: from the record of a run and the texts of its artifacts, a generator starts with
  what the run has generated.
* `removed_of_recorded`, `name_mem_or_of_recorded`: what becomes of the names in a record.
-/

namespace DisplayGen

/-- Behind its first line, the text is what emission gives for the summary. -/
def Generated.UpToDate (extension : String) (x : Generated) : Prop :=
  ∃ a tally, emit extension .empty x.summary = .ok (a, tally) ∧
    behindFirstLine x.artifact.text = behindFirstLine a.text

theorem Generated.Rendered.upToDate {extension : String} {x : Generated}
    (h : x.Rendered extension) : x.UpToDate extension := by
  obtain ⟨count, code, hcode, heq⟩ := h
  refine ⟨_, _, by rw [emit_eq, hcode]; rfl, ?_⟩
  rw [heq, behindFirstLine_artifactText, behindFirstLine_artifactText]

/-- The generations that a run has finished: one or none. -/
def Outcome.finished (o : Outcome) : List (List Generated) :=
  match o.result with
  | .ok r => [r.generated]
  | .error _ => []

namespace Generator

variable {g₀ g : Generator} {finished : List (List Generated)} {c : Crate} {r : Run}
  {x : Generated} {s : Summary} {a : Artifact}

/-- The generators that runs make of a generator, with the generations finished on the way. -/
inductive Serves (g₀ : Generator) : Generator → List (List Generated) → Prop where
  | start : Serves g₀ g₀ []
  | run {g : Generator} {finished : List (List Generated)} (h : Serves g₀ g finished) (c : Crate) :
      Serves g₀ (g.run c).generator (finished ++ (g.run c).finished)

/-- The summary was in each of the generations. -/
def Throughout (finished : List (List Generated)) (s : Summary) : Prop :=
  ∀ gs ∈ finished, s ∈ gs.map (·.summary)

/-- The generator had a text for the summary from the start that is not up to date, and the summary
has been in each generation since. -/
def Misled (g₀ : Generator) (finished : List (List Generated)) (s : Summary) : Prop :=
  ∃ a, g₀.cache.lookup s = some a ∧ ¬ (⟨s, a⟩ : Generated).UpToDate g₀.extension ∧
    Throughout finished s

/-- What a run that gives a result has generated, in terms of the cache before it. -/
theorem run_makes (hr : (g.run c).result = .ok r) :
    (r.generated.map Generated.key).Nodup ∧ (∀ x ∈ r.generated, g.Makes x) ∧
      (g.run c).generator.cache = Cache.ofList r.generated := by
  obtain ⟨marked, p, hsteps⟩ := Generator.run_ok hr
  refine ⟨hsteps.keys, hsteps.advances.2.makes, ?_⟩
  rw [hsteps.generator, hsteps.generated]

/-- The cache after a run that gives a result. -/
theorem lookup_run (hr : (g.run c).result = .ok r) :
    (g.run c).generator.cache.lookup s = some a ↔ ⟨s, a⟩ ∈ r.generated := by
  obtain ⟨hkeys, -, hcache⟩ := run_makes hr
  rw [hcache, Cache.lookup_ofList hkeys]

/-- What a run calls emitted and reused: the names of what the cache did not hold, and of what it held. -/
theorem run_names (hr : (g.run c).result = .ok r) :
    r.emitted = g.namesWhere false r.generated ∧ r.reused = g.namesWhere true r.generated := by
  obtain ⟨marked, p, hsteps⟩ := Generator.run_ok hr
  obtain ⟨-, hadvances⟩ := hsteps.advances
  rw [hsteps.emitted, hsteps.reused, hadvances.emitted, hadvances.reused]
  exact ⟨rfl, rfl⟩

/-- What a generator makes was in its cache, or it is a rendering. -/
theorem Makes.mem_or_rendered (h : g.Makes x) :
    x ∈ g.cache.entries ∨ x.Rendered g.extension := by
  obtain h | ⟨-, h⟩ := h
  · exact .inl (List.mem_of_find?_eq_some (Cache.lookup_eq_some.1 h))
  · exact .inr h

/-- What is in the cache after a run was there before, or it is a rendering. -/
theorem mem_entries_run (h : x ∈ (g.run c).generator.cache.entries) :
    x ∈ g.cache.entries ∨ x.Rendered g.extension := by
  cases hr : (g.run c).result with
  | error e =>
    obtain ⟨tally, hgenerator⟩ := run_error hr
    rw [hgenerator] at h
    exact .inl h
  | ok r =>
    obtain ⟨hkeys, hmakes, hcache⟩ := run_makes hr
    rw [hcache, (Cache.entries_ofList_perm hkeys).mem_iff] at h
    exact (hmakes x h).mem_or_rendered

theorem Makes.upToDate_or (h : g.Makes x) :
    x.UpToDate g.extension ∨ g.cache.lookup x.summary = some x.artifact := by
  obtain h | ⟨-, h⟩ := h
  · exact .inr h
  · exact .inl h.upToDate

namespace Serves

theorem extension (h : Serves g₀ g finished) : g.extension = g₀.extension := by
  induction h with
  | start => rfl
  | run _ c ih => rw [run_extension, ih]

theorem marker (h : Serves g₀ g finished) : g.marker = g₀.marker := by
  induction h with
  | start => rfl
  | run _ c ih => rw [run_marker, ih]

/-- A text in the cache that is not up to date was there from the start, and its summary has been in
each generation since. -/
theorem lookup_cases (h : Serves g₀ g finished) (ha : g.cache.lookup s = some a) :
    (⟨s, a⟩ : Generated).UpToDate g₀.extension ∨
      g₀.cache.lookup s = some a ∧ Throughout finished s := by
  induction h with
  | start => exact .inr ⟨ha, fun _ hgs => by cases hgs⟩
  | @run g finished h c ih =>
    unfold Outcome.finished
    cases hr : (g.run c).result with
    | error e =>
      obtain ⟨tally, hgenerator⟩ := run_error hr
      rw [hgenerator] at ha
      simpa using ih ha
    | ok r =>
      have hmem := (lookup_run hr).1 ha
      obtain hup | hlookup := ((run_makes hr).2.1 _ hmem).upToDate_or
      · exact .inl (h.extension ▸ hup)
      · obtain hup | ⟨hstart, hall⟩ := ih hlookup
        · exact .inl hup
        · refine .inr ⟨hstart, List.forall_mem_append.2 ⟨hall, ?_⟩⟩
          exact List.forall_mem_singleton.2 (List.mem_map.2 ⟨_, hmem, rfl⟩)

/-- What was in the cache from the start stays there as long as each generation has the summary. -/
theorem lookup_of_throughout (h : Serves g₀ g finished) (ha : g₀.cache.lookup s = some a)
    (hall : Throughout finished s) : g.cache.lookup s = some a := by
  induction h with
  | start => exact ha
  | @run g finished h c ih =>
    unfold Outcome.finished at hall
    cases hr : (g.run c).result with
    | error e =>
      rw [hr] at hall
      obtain ⟨tally, hgenerator⟩ := run_error hr
      rw [hgenerator]
      exact ih (by simpa using hall)
    | ok r =>
      rw [hr] at hall
      obtain ⟨hbefore, hlast⟩ := List.forall_mem_append.1 hall
      obtain ⟨x, hx, rfl⟩ := List.mem_map.1 (hlast r.generated (List.mem_singleton_self _))
      have hmakes := (run_makes hr).2.1 x hx
      rw [lookup_run hr, ← hmakes.eq_of_lookup (ih hbefore)]
      exact hx

/-- A text that is not up to date was in the cache from the start. -/
theorem of_not_upToDate (h : Serves g₀ g finished) (hr : (g.run c).result = .ok r)
    (hx : x ∈ r.generated) (hout : ¬ x.UpToDate g₀.extension) :
    g₀.cache.lookup x.summary = some x.artifact ∧ Throughout finished x.summary := by
  obtain hup | hlookup := ((run_makes hr).2.1 x hx).upToDate_or
  · exact absurd (h.extension ▸ hup) hout
  · exact (h.lookup_cases hlookup).resolve_left hout

/-- A run gives a text that is up to date, unless the generator has been misled about it. -/
theorem upToDate_iff (h : Serves g₀ g finished) (hr : (g.run c).result = .ok r)
    (hx : x ∈ r.generated) : x.UpToDate g₀.extension ↔ ¬ Misled g₀ finished x.summary := by
  constructor
  · rintro hup ⟨a, ha, hout, hall⟩
    have hmakes := (run_makes hr).2.1 x hx
    rw [← hmakes.eq_of_lookup (h.lookup_of_throughout ha hall)] at hout
    exact hout hup
  · intro hmisled
    by_contra hout
    obtain ⟨hstart, hall⟩ := h.of_not_upToDate hr hx hout
    exact hmisled ⟨x.artifact, hstart, hout, hall⟩

end Serves

/-! ## Names

All that a cache holds has the name that its summary is given; so a name that is removed is never one
that was generated.
-/

/-- The artifacts in the cache have the names that their summaries are given. -/
def Named (g : Generator) : Prop :=
  ∀ x ∈ g.cache.entries, x.artifact.name = x.summary.artifactName g.extension

/-- What a run removes: the names in the cache whose keys it has not generated for. -/
theorem mem_removed (hr : (g.run c).result = .ok r) {name : String} : name ∈ r.removed ↔
    ∃ y ∈ g.cache.entries, y.key ∉ r.generated.map Generated.key ∧ y.artifact.name = name := by
  obtain ⟨marked, p, hsteps⟩ := Generator.run_ok hr
  rw [hsteps.removed, ← hsteps.generated]
  exact Cache.mem_removed

/-- The marker's file has the same name in all runs of a generator. -/
theorem run_marker_name (hr : (g.run c).result = .ok r) :
    r.marker.name = g.marker.artifactName := by
  obtain ⟨marked, p, hsteps⟩ := Generator.run_ok hr
  rw [Marker.definition_ok hsteps.definition]

theorem Makes.name_eq (hg : g.Named) (h : g.Makes x) :
    x.artifact.name = x.summary.artifactName g.extension :=
  h.mem_or_rendered.elim (hg x) Generated.Rendered.name_eq

namespace Named

theorem run (h : g.Named) (c : Crate) : (g.run c).generator.Named := by
  intro x hx
  rw [run_extension]
  exact (mem_entries_run hx).elim (h x) Generated.Rendered.name_eq

/-- What is removed has none of the names that were generated. -/
theorem not_mem_removed (h : g.Named) (hr : (g.run c).result = .ok r) (hx : x ∈ r.generated) :
    x.artifact.name ∉ r.removed := by
  intro hmem
  obtain ⟨y, hy, hgone, heq⟩ := (mem_removed hr).1 hmem
  rw [h y hy, ((run_makes hr).2.1 x hx).name_eq h, Summary.artifactName_inj] at heq
  exact hgone (List.mem_map.2 ⟨x, hx, heq.symm⟩)

/-- Each name that a run finds in the cache, it takes over or removes. -/
theorem name_mem_or (h : g.Named) (hr : (g.run c).result = .ok r) (hx : x ∈ g.cache.entries) :
    x.artifact.name ∈ r.generated.map (·.artifact.name) ∨ x.artifact.name ∈ r.removed := by
  by_cases hkey : x.key ∈ r.generated.map Generated.key
  · obtain ⟨y, hy, heq⟩ := List.mem_map.1 hkey
    refine .inl (List.mem_map.2 ⟨y, hy, ?_⟩)
    rw [((run_makes hr).2.1 y hy).name_eq h, h x hx, Summary.artifactName_inj]
    exact heq
  · exact .inr ((mem_removed hr).2 ⟨x, hx, hkey, rfl⟩)

end Named

/-! ## Records -/

section

variable {text? : ManifestEntry → Option String} {m : Manifest} {gs : List Generated}

theorem recorded?_eq_some {e : ManifestEntry} : g.recorded? text? e = some x ↔
    e.artifactName = e.summary.artifactName g.extension ∧ ∃ text, text? e = some text ∧
      ⟨e.summary, ⟨e.artifactName, e.summary.modulePath, text⟩⟩ = x := by
  unfold recorded?
  by_cases hname : e.artifactName = e.summary.artifactName g.extension
  · rw [if_pos hname, Option.map_eq_some_iff, and_iff_right hname]
  · rw [if_neg hname]
    simp [hname]

/-- What is taken from a record is an entry with the name that its summary is given, and the text that
was found for it. -/
theorem mem_recorded (h : x ∈ g.recorded text? m) : x.summary.toEntry g.extension ∈ m.entries ∧
    text? (x.summary.toEntry g.extension) = some x.artifact.text ∧
      x.artifact.name = x.summary.artifactName g.extension := by
  obtain ⟨e, he, hx⟩ := List.mem_filterMap.1 h
  obtain ⟨hname, text, htext, rfl⟩ := recorded?_eq_some.1 hx
  have hentry : e.summary.toEntry g.extension = e := by
    rw [Summary.toEntry, ← hname]
  rw [hentry]
  exact ⟨he, htext, hname⟩

theorem summary_of_recorded? {e : ManifestEntry} (h : g.recorded? text? e = some x) :
    x.summary = e.summary := by
  obtain ⟨-, text, -, rfl⟩ := recorded?_eq_some.1 h
  rfl

/-- What is taken from a record has distinct keys if the record has. -/
theorem nodup_recorded (h : (m.entries.map (·.summary.key)).Nodup) :
    ((g.recorded text? m).map Generated.key).Nodup := by
  unfold List.Nodup at h ⊢
  rw [List.pairwise_map] at h ⊢
  rw [recorded, List.pairwise_filterMap]
  refine h.imp fun {e e'} hne x hx y hy => ?_
  unfold Generated.key
  rw [summary_of_recorded? hx, summary_of_recorded? hy]
  exact hne

theorem mem_of_mem_seed (hg : g.cache = .empty) (h : x ∈ (g.seed gs).cache.entries) : x ∈ gs := by
  obtain hold | hnew := Cache.mem_entries_foldl_insert h
  · rw [hg] at hold
    cases hold
  · exact hnew

theorem mem_of_lookup_seed (hg : g.cache = .empty) (h : (g.seed gs).cache.lookup s = some a) :
    ⟨s, a⟩ ∈ gs :=
  mem_of_mem_seed hg (List.mem_of_find?_eq_some (Cache.lookup_eq_some.1 h))

theorem mem_seed_iff (hg : g.cache = .empty) (hkeys : (gs.map Generated.key).Nodup) :
    x ∈ (g.seed gs).cache.entries ↔ x ∈ gs := by
  unfold seed
  rw [hg]
  exact (Cache.entries_ofList_perm hkeys).mem_iff

theorem lookup_seed_iff (hg : g.cache = .empty) (hkeys : (gs.map Generated.key).Nodup) :
    (g.seed gs).cache.lookup s = some a ↔ ⟨s, a⟩ ∈ gs := by
  unfold seed
  rw [hg]
  exact Cache.lookup_ofList hkeys

theorem named_seed (hg : g.cache = .empty) : (g.seed (g.recorded text? m)).Named :=
  fun _ hx => (mem_recorded (mem_of_mem_seed hg hx)).2.2

theorem consistent_seed (hg : g.cache = .empty) (hkeys : (gs.map Generated.key).Nodup)
    (hrendered : ∀ x ∈ gs, x.Rendered g.extension) : (g.seed gs).Consistent gs where
  cache := by
    unfold seed Cache.ofList
    rw [hg]
  keys := hkeys
  rendered := hrendered

end

variable {text? : ManifestEntry → Option String} {crateName extension : String}

theorem mem_entries_manifest {e : ManifestEntry} :
    e ∈ (r.manifest crateName extension).entries ↔ ∃ x ∈ r.generated,
      x.summary.toEntry extension = e := by
  unfold Run.manifest
  rw [(Manifest.entries_sorted_perm _).mem_iff, Run.summaries, List.map_map, List.mem_map]
  rfl

/-- From the record of a run, only what the run has generated is taken, and only with its extension. -/
theorem mem_recorded_manifest (h : x ∈ g.recorded text? (r.manifest crateName extension)) :
    g.extension = extension ∧ ∃ y ∈ r.generated, y.summary = x.summary := by
  obtain ⟨hentry, -, -⟩ := mem_recorded h
  obtain ⟨y, hy, heq⟩ := mem_entries_manifest.1 hentry
  have hsummary : y.summary = x.summary := congrArg ManifestEntry.summary heq
  have hname : y.summary.artifactName extension = x.summary.artifactName g.extension :=
    congrArg ManifestEntry.artifactName heq
  rw [hsummary, Summary.artifactName_extension_inj] at hname
  exact ⟨hname.symm, y, hy, hsummary⟩

/-- What the run has generated is taken if its text is found. -/
theorem mem_recorded_of_text {text : String} (hx : x ∈ r.generated)
    (htext : text? (x.summary.toEntry g.extension) = some text) :
    ⟨x.summary, ⟨x.summary.artifactName g.extension, x.summary.modulePath, text⟩⟩ ∈
      g.recorded text? (r.manifest crateName g.extension) := by
  refine List.mem_filterMap.2 ⟨_, mem_entries_manifest.2 ⟨x, hx, rfl⟩, ?_⟩
  unfold recorded?
  rw [htext]
  exact if_pos rfl

/-- The entries of the record of a run have distinct keys if the run has. -/
theorem nodup_entries_manifest (hkeys : (r.generated.map Generated.key).Nodup) :
    ((r.manifest crateName extension).entries.map (·.summary.key)).Nodup := by
  refine ((Manifest.entries_sorted_perm _).map _).nodup_iff.2 ?_
  rw [Run.summaries, List.map_map, List.map_map]
  exact hkeys

/-- The names in the record of a run are distinct if the keys of the run are. -/
theorem nodup_entryNames (hkeys : (r.generated.map Generated.key).Nodup) :
    ((r.summaries.map fun s => s.toEntry extension).map (·.artifactName)).Nodup := by
  unfold List.Nodup at hkeys ⊢
  rw [Run.summaries, List.map_map, List.map_map]
  rw [List.pairwise_map] at hkeys ⊢
  exact hkeys.imp fun hne heq => hne (Summary.artifactName_inj.1 heq)

/-- Runs for the same summaries, in whatever order, have the same record. -/
theorem manifest_congr {r' : Run} (hmarker : r.marker.name = r'.marker.name)
    (hsummaries : r.summaries.Perm r'.summaries) (hkeys : (r.generated.map Generated.key).Nodup) :
    r.manifest crateName extension = r'.manifest crateName extension :=
  Manifest.sorted_congr rfl (congrArg some hmarker) (hsummaries.map _) (nodup_entryNames hkeys)

section

variable {next : Run} (hg : g.cache = .empty)
  (hnext : ((g.seed (g.recorded text? (r.manifest crateName extension))).run c).result = .ok next)

include hg hnext

/-- What a run removes whose generator started from the record of another: names that this one has
generated, with the same extension. -/
theorem removed_of_recorded {name : String} (h : name ∈ next.removed) :
    g.extension = extension ∧ ∃ x ∈ r.generated, x.summary.artifactName extension = name := by
  obtain ⟨y, hy, -, rfl⟩ := (mem_removed hnext).1 h
  have hrecorded := mem_of_mem_seed hg hy
  obtain ⟨hextension, x, hx, hsummary⟩ := mem_recorded_manifest hrecorded
  refine ⟨hextension, x, hx, ?_⟩
  rw [(mem_recorded hrecorded).2.2, hextension, hsummary]

/-- With the same extension, it takes over or removes each name whose text is found. -/
theorem name_mem_or_of_recorded (hextension : g.extension = extension)
    (hkeys : (r.generated.map Generated.key).Nodup) (hx : x ∈ r.generated) {text : String}
    (htext : text? (x.summary.toEntry extension) = some text) :
    x.summary.artifactName extension ∈ next.generated.map (·.artifact.name) ∨
      x.summary.artifactName extension ∈ next.removed := by
  subst hextension
  exact (named_seed hg).name_mem_or hnext
    ((mem_seed_iff hg (nodup_recorded (nodup_entries_manifest hkeys))).2 (mem_recorded_of_text hx htext))

end

/-- A generator that starts from the record of a run, and finds the texts of its artifacts, starts
with what the run has generated. -/
theorem recorded_manifest (text? : ManifestEntry → Option String) (crateName : String)
    (hrendered : ∀ x ∈ r.generated, x.Rendered g.extension)
    (htext : ∀ x ∈ r.generated, text? (x.summary.toEntry g.extension) = some x.artifact.text) :
    (g.recorded text? (r.manifest crateName g.extension)).Perm r.generated := by
  have hentry : ∀ x ∈ r.generated,
      g.recorded? text? (x.summary.toEntry g.extension) = some x := by
    intro x hx
    obtain ⟨count, code, -, heq⟩ := hrendered x hx
    have hfound := htext x hx
    obtain ⟨s, a⟩ := x
    dsimp only at heq
    subst heq
    unfold recorded?
    rw [hfound]
    exact if_pos rfl
  have hentries : (r.summaries.map fun s => s.toEntry g.extension).filterMap (g.recorded? text?) =
      r.generated := by
    rw [Run.summaries, List.map_map, List.filterMap_map]
    simp only [Function.comp_def]
    rw [List.filterMap_congr hentry, List.filterMap_some]
  rw [← hentries]
  exact (Manifest.entries_sorted_perm _).filterMap _

end Generator

end DisplayGen
