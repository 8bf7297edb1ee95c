import DisplayGen.Proofs.Except
import DisplayGen.Proofs.Generator.Foretold

/-!
# Histories of a generator

`Reaches g₀ g last`: runs have made `g` out of `g₀`, over any crates, and some may have failed; `last`
is the latest generation that was finished. Other generators may count in the same tally between
two runs.

* `Reaches.consistent`: the cache is that of `last`, whose keys are distinct and whose artifacts are
  renderings.
* `run_followsUp`: what a run reuses, emits, removes and counts is decided by `last` and its own
  summaries.
-/

namespace DisplayGen

/-- The latest finished generation after a run. -/
def Outcome.latest (o : Outcome) (last : List Generated) : List Generated :=
  match o.result with
  | .ok r => r.generated
  | .error _ => last

namespace Generator

/-- The generators that runs make of a generator, each with its latest finished generation. -/
inductive Reaches (g₀ : Generator) : Generator → List Generated → Prop where
  | start : Reaches g₀ g₀ []
  | run {g : Generator} {last : List Generated} (h : Reaches g₀ g last) (c : Crate) :
      Reaches g₀ (g.run c).generator ((g.run c).latest last)
  | count {g : Generator} {last : List Generated} (h : Reaches g₀ g last) (tally : Tally) :
      Reaches g₀ { g with tally } last

/-- The cache is that of the latest finished generation, which is one of renderings under distinct
keys. -/
structure Consistent (g : Generator) (last : List Generated) : Prop where
  cache : g.cache = Cache.ofList last
  keys : (last.map Generated.key).Nodup
  rendered : ∀ x ∈ last, x.Rendered g.extension

namespace Consistent

variable {g : Generator} {last : List Generated}

theorem lookup (h : g.Consistent last) {s : Summary} {a : Artifact} :
    g.cache.lookup s = some a ↔ ⟨s, a⟩ ∈ last := by
  rw [h.cache, Cache.lookup_ofList h.keys]

theorem holds (h : g.Consistent last) {s : Summary} :
    g.holds s = true ↔ s ∈ last.map (·.summary) := by
  unfold Generator.holds
  rw [Option.isSome_iff_exists, List.mem_map]
  constructor
  · rintro ⟨a, ha⟩
    exact ⟨⟨s, a⟩, h.lookup.1 ha, rfl⟩
  · rintro ⟨⟨s', a⟩, hmem, rfl⟩
    exact ⟨a, h.lookup.2 hmem⟩

/-- All that a consistent generator makes is rendered, by itself or earlier. -/
theorem rendered_of_makes (h : g.Consistent last) {x : Generated} (hx : g.Makes x) :
    x.Rendered g.extension := by
  obtain hx | ⟨-, hx⟩ := hx
  · exact h.rendered x (h.lookup.1 hx)
  · exact hx

end Consistent

end Generator

theorem names_eq {extension : String} {gs : List Generated}
    (h : ∀ x ∈ gs, x.Rendered extension) : gs.map (·.artifact.name) =
      (gs.map Generated.key).map fun k => k ++ (".g." ++ extension) := by
  rw [List.map_map]
  exact List.map_congr_left fun x hx => (h x hx).name_eq.trans (x.summary.artifactName_eq _)

/-- Renderings have distinct names if and only if their keys are distinct. -/
theorem names_nodup_iff {extension : String} {gs : List Generated}
    (h : ∀ x ∈ gs, x.Rendered extension) :
    (gs.map (·.artifact.name)).Nodup ↔ (gs.map Generated.key).Nodup := by
  rw [names_eq h]
  exact List.nodup_map_iff fun k k' hk => (String.append_left_inj _).1 hk

namespace Generator

section

variable {g : Generator} {last : List Generated} {c marked : Crate} {p : Progress} {o : Outcome}
  {r : Run}

/-- What a run that gave a result has generated, in terms of the generator before it. -/
theorem RunSteps.advances (h : g.RunSteps c marked p o r) :
    r.summaries = marked.summaries g.marker.path ∧
      g.Advances ⟨g.tally, [], [], []⟩ p r.generated := by
  obtain ⟨made, hsummaries, hadvances⟩ := produceAll_ok h.produced
  have hmade : r.generated = made := h.generated.trans hadvances.generated
  subst hmade
  exact ⟨hsummaries, hadvances⟩

theorem RunSteps.keys (h : g.RunSteps c marked p o r) : (r.generated.map Generated.key).Nodup := by
  have hdistinct := h.distinct
  rw [← h.advances.1] at hdistinct
  have hnames : r.summaries.map (fun s => s.artifactName g.extension) =
      (r.generated.map Generated.key).map fun k => k ++ (".g." ++ g.extension) := by
    rw [Run.summaries, List.map_map, List.map_map]
    exact List.map_congr_left fun x _ => x.summary.artifactName_eq _
  rw [hnames] at hdistinct
  exact hdistinct.of_map _

/-- The counter of a key goes up by one if an artifact is emitted for it. -/
theorem RunSteps.counts (h : g.RunSteps c marked p o r)
    (hrendered : ∀ x ∈ r.generated, x.Rendered g.extension) (key : String) :
    o.generator.tally.get key =
      g.tally.get key + if key ++ ".g." ++ g.extension ∈ r.emitted then 1 else 0 := by
  obtain ⟨-, hadvances⟩ := h.advances
  have hkeys : ((r.generated.filter fun x => g.holds x.summary == false).map Generated.key).Nodup :=
    h.keys.sublist (List.filter_sublist.map _)
  have hcounted : key ++ ".g." ++ g.extension ∈ r.emitted ↔
      key ∈ (r.generated.filter fun x => g.holds x.summary == false).map Generated.key := by
    rw [h.emitted, hadvances.emitted, List.nil_append, namesWhere,
      names_eq fun x hx => hrendered x (List.mem_filter.1 hx).1, String.append_assoc]
    exact List.mem_map_of_injective fun k k' hk => (String.append_left_inj _).1 hk
  rw [h.generator, hadvances.tally, hkeys.count]
  simp only [hcounted]

theorem Consistent.run_ok (h : g.Consistent last) (hr : (g.run c).result = .ok r) :
    (g.run c).generator.Consistent r.generated := by
  obtain ⟨marked, p, hsteps⟩ := Generator.run_ok hr
  have hgenerator := hsteps.generator
  refine ⟨?_, hsteps.keys, ?_⟩
  · rw [hgenerator, hsteps.generated]
  · rw [hgenerator]
    exact fun x hx => h.rendered_of_makes (hsteps.advances.2.makes x hx)

theorem Consistent.run (h : g.Consistent last) (c : Crate) :
    (g.run c).generator.Consistent ((g.run c).latest last) := by
  unfold Outcome.latest
  cases hr : (g.run c).result with
  | ok r => exact h.run_ok hr
  | error e =>
    obtain ⟨tally, hgenerator⟩ := run_error hr
    rw [hgenerator]
    exact ⟨h.cache, h.keys, h.rendered⟩

theorem consistent_create {path extension : String} {g₀ : Generator}
    (h : create path extension = .ok g₀) : g₀.Consistent [] := by
  obtain ⟨m, -, h⟩ := bind_ok h
  cases h
  exact ⟨rfl, List.nodup_nil, by simp⟩

/-- A new generator whose marker stands at the root of the crate. -/
theorem create_root : create "crate::M" "rs" = .ok ⟨⟨"crate::M", [], "M"⟩, "rs", .empty, .empty⟩ :=
  toOption_eq_some (by decide +kernel)

theorem run_marker (g : Generator) (c : Crate) : (g.run c).generator.marker = g.marker := by
  cases hr : (g.run c).result with
  | ok r =>
    obtain ⟨marked, p, hsteps⟩ := Generator.run_ok hr
    rw [hsteps.generator]
  | error e =>
    obtain ⟨tally, hgenerator⟩ := run_error hr
    rw [hgenerator]

theorem run_extension (g : Generator) (c : Crate) :
    (g.run c).generator.extension = g.extension := by
  cases hr : (g.run c).result with
  | ok r =>
    obtain ⟨marked, p, hsteps⟩ := Generator.run_ok hr
    rw [hsteps.generator]
  | error e =>
    obtain ⟨tally, hgenerator⟩ := run_error hr
    rw [hgenerator]

namespace Reaches

variable {g₀ : Generator}

theorem consistent (h₀ : g₀.Consistent []) (h : Reaches g₀ g last) : g.Consistent last := by
  induction h with
  | start => exact h₀
  | run _ c ih => exact ih.run c
  | count _ tally ih => exact ⟨ih.cache, ih.keys, ih.rendered⟩

theorem marker (h : Reaches g₀ g last) : g.marker = g₀.marker := by
  induction h with
  | start => rfl
  | run _ c ih => rw [run_marker, ih]
  | count _ tally ih => exact ih

theorem extension (h : Reaches g₀ g last) : g.extension = g₀.extension := by
  induction h with
  | start => rfl
  | run _ c ih => rw [run_extension, ih]
  | count _ tally ih => exact ih

end Reaches

end

end Generator

/-! ## The law of a run -/

theorem mem_map_filter_iff {α β : Type} {f : α → β} {as : List α} {q : α → Bool} {a : α}
    (hf : (as.map f).Nodup) (ha : a ∈ as) : f a ∈ (as.filter q).map f ↔ q a = true := by
  constructor
  · intro hmem
    obtain ⟨b, hb, heq⟩ := List.mem_map.1 hmem
    obtain ⟨hb, hq⟩ := List.mem_filter.1 hb
    rw [← List.inj_on_of_nodup_map hf hb ha heq]
    exact hq
  · intro hq
    exact List.mem_map_of_mem (List.mem_filter.2 ⟨ha, hq⟩)

theorem Marker.parse_path {path : String} {m : Marker} (h : Marker.parse path = .ok m) :
    m.path = path := by
  unfold Marker.parse at h
  split at h
  · split at h
    · cases h
    · split at h
      · cases h
        rfl
      · cases h
  · cases h

/-- What a run over a crate gives and counts, after the generation `last`: `before` and `after` are
the tallies around it. -/
structure Run.FollowsUp (r : Run) (path extension : String) (last : List Generated) (c : Crate)
    (before after : Tally) : Prop where
  /-- The summaries are those of the crate with the marker's definition. -/
  summaries : ∃ m marked, Marker.parse path = .ok m ∧ m.definition = .ok r.marker ∧
    c.addArtifact r.marker = .ok marked ∧ r.summaries = marked.summaries path
  names : ∀ x ∈ r.generated, x.artifact.name = x.summary.artifactName extension
  distinct : (r.generated.map (·.artifact.name)).Nodup
  /-- The reused and the emitted artifacts, in source order. -/
  reused : r.reused =
    (r.generated.filter fun x => x.summary ∈ last.map (·.summary)).map (·.artifact.name)
  emitted : r.emitted =
    (r.generated.filter fun x => x.summary ∉ last.map (·.summary)).map (·.artifact.name)
  mem_reused : ∀ x ∈ r.generated,
    x.artifact.name ∈ r.reused ↔ ∃ y ∈ last, y.summary = x.summary
  /-- What is reused is what there was. -/
  identical : ∀ x ∈ r.generated, ∀ y ∈ last, y.summary = x.summary → x.artifact = y.artifact
  removed_nodup : r.removed.Nodup
  mem_removed : ∀ name, name ∈ r.removed ↔
    ∃ y ∈ last, y.key ∉ r.summaries.map Summary.key ∧ y.artifact.name = name
  /-- What is emitted is counted once, and nothing else. -/
  counts : ∀ key, after.get key =
    before.get key + if key ++ ".g." ++ extension ∈ r.emitted then 1 else 0

namespace Generator

variable {g : Generator} {last : List Generated} {c : Crate} {r : Run}

/-- The names that a consistent generator has from its cache are those with an equal summary in the
latest generation. -/
theorem Consistent.namesWhere_true (h : g.Consistent last) (gs : List Generated) :
    g.namesWhere true gs =
      (gs.filter fun x => x.summary ∈ last.map (·.summary)).map (·.artifact.name) := by
  unfold namesWhere
  congr 1
  refine List.filter_congr fun x _ => ?_
  rw [Bool.eq_iff_iff, beq_iff_eq, h.holds, decide_eq_true_iff]

theorem Consistent.namesWhere_false (h : g.Consistent last) (gs : List Generated) :
    g.namesWhere false gs =
      (gs.filter fun x => x.summary ∉ last.map (·.summary)).map (·.artifact.name) := by
  unfold namesWhere
  congr 1
  refine List.filter_congr fun x _ => ?_
  rw [Bool.eq_iff_iff, beq_iff_eq, decide_eq_true_iff, ← h.holds, Bool.not_eq_true]

theorem Consistent.followsUp_run (h : g.Consistent last) {path : String}
    (hparse : Marker.parse path = .ok g.marker) (hr : (g.run c).result = .ok r) :
    r.FollowsUp path g.extension last c g.tally (g.run c).generator.tally := by
  obtain ⟨marked, p, hsteps⟩ := Generator.run_ok hr
  obtain ⟨hsummaries, hadvances⟩ := hsteps.advances
  rw [Marker.parse_path hparse] at hsummaries
  have hrendered : ∀ x ∈ r.generated, x.Rendered g.extension :=
    fun x hx => h.rendered_of_makes (hadvances.makes x hx)
  have hnames := (names_nodup_iff hrendered).2 hsteps.keys
  have hreused : r.reused =
      (r.generated.filter fun x => x.summary ∈ last.map (·.summary)).map (·.artifact.name) := by
    rw [hsteps.reused, hadvances.reused, ← h.namesWhere_true]
    rfl
  have hemitted : r.emitted =
      (r.generated.filter fun x => x.summary ∉ last.map (·.summary)).map (·.artifact.name) := by
    rw [hsteps.emitted, hadvances.emitted, ← h.namesWhere_false]
    rfl
  have hremoved : r.removed = ((Cache.ofList last).commit r.generated).1 := by
    rw [hsteps.removed, h.cache, hsteps.generated]
  refine ⟨⟨g.marker, marked, hparse, hsteps.definition, hsteps.addMarker, hsummaries⟩,
    fun x hx => (hrendered x hx).name_eq, hnames, hreused, hemitted, ?_, ?_, ?_, ?_, ?_⟩
  · intro x hx
    rw [hreused, mem_map_filter_iff hnames hx, decide_eq_true_iff, List.mem_map]
  · intro x hx y hy hsame
    have hlookup : g.cache.lookup x.summary = some y.artifact := hsame ▸ h.lookup.2 hy
    exact (hadvances.makes x hx).eq_of_lookup hlookup
  · rw [hremoved]
    exact Cache.removed_nodup h.keys ((names_nodup_iff h.rendered).2 h.keys)
  · intro name
    rw [hremoved, Cache.mem_removed, Run.summaries, List.map_map]
    simp only [(Cache.entries_ofList_perm h.keys).mem_iff]
    rfl
  · exact hsteps.counts hrendered

theorem create_ok {path extension : String} (h : create path extension = .ok g) :
    Marker.parse path = .ok g.marker ∧ g.extension = extension := by
  obtain ⟨m, hparse, h⟩ := bind_ok h
  cases h
  exact ⟨hparse, rfl⟩

/-- A run that gives a result, after any history of runs, follows up the latest run before it that
did. -/
theorem run_followsUp {path extension : String} {g₀ : Generator} (hnew : create path extension = .ok g₀)
    (h : Reaches g₀ g last) (hr : (g.run c).result = .ok r) :
    r.FollowsUp path extension last c g.tally (g.run c).generator.tally := by
  obtain ⟨hparse, hextension⟩ := create_ok hnew
  rw [← h.marker] at hparse
  rw [← hextension, ← h.extension]
  exact (h.consistent (consistent_create hnew)).followsUp_run hparse hr

/-- The first run over a crate with one marked struct. -/
theorem run_followsUp_first : ∃ (g : Generator) (c : Crate) (r : Run), r.emitted = ["d.P.g.rs"] ∧
    r.FollowsUp "crate::M" "rs" [] c .empty (g.run c).generator.tally := by
  have hforetold : ((⟨⟨"crate::M", [], "M"⟩, "rs", .empty, .empty⟩ : Generator).foretell? (.plain "M")
      ⟨"d", [⟨"lib.rs", [], ⟨[], [.node (.struct ⟨[⟨false, ⟨false, [.plain "M"]⟩⟩], .everyone,
        .plain "P", .named [⟨.everyone, .plain "x"⟩]⟩) []]⟩⟩]⟩).map (fun o => o.2.emitted) =
      some ["d.P.g.rs"] := by decide +kernel
  obtain ⟨⟨g, r⟩, hrun, hemitted⟩ := Option.map_eq_some_iff.1 hforetold
  obtain ⟨hr, -⟩ := run_of_foretell? (fun _ => (consistent_create create_root).rendered_of_makes) rfl rfl hrun
  exact ⟨_, _, r, hemitted, run_followsUp create_root .start hr⟩

end Generator

end DisplayGen
