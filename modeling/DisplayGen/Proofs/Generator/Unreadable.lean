import DisplayGen.Proofs.Emission.Reread
import DisplayGen.Proofs.Generator.Seeded

/-!
# Records with texts that cannot be read

A generator takes the texts of a record as they are. They come back when they are added to the crate, and
there they are read: one that is no source file makes the run fail, although a generator without the record
would generate the file anew.

* `produceAll_of_rendered`: summaries that can be rendered are generated for, whatever the cache holds.
* `run_seeded`: which runs of a seeded generator fail, where the run of a new one gives a result.
-/

namespace DisplayGen

open Source

namespace Generator

variable {g g₀ : Generator} {c : Crate} {r₀ : Run} {gs : List Generated}

/-- What can be rendered is generated, if the cache does not hold it. -/
theorem produceAll_of_rendered {ss : List Summary}
    (h : ∀ s ∈ ss, ∃ code, DisplayCode.ofSummary s = .ok code) (p : Progress) :
    ∃ p', g.produceAll p ss = (p', none) := by
  induction ss generalizing p with
  | nil => exact ⟨p, rfl⟩
  | cons s ss ih =>
    obtain ⟨⟨code, hcode⟩, hss⟩ := List.forall_mem_cons.1 h
    unfold produceAll
    cases hproduce : g.produce p s with
    | ok p' => exact ih hss p'
    | error e =>
      have hproduces := g.produces p s
      rw [hproduce] at hproduces
      cases hproduces with
      | failed _ hfail =>
        rw [hcode] at hfail
        cases hfail

/-- Artifacts that have the names of their summaries have the same names if their summaries are the same. -/
theorem names_congr {extension : String} {xs ys : List Generated}
    (hxs : ∀ x ∈ xs, x.artifact.name = x.summary.artifactName extension)
    (hys : ∀ y ∈ ys, y.artifact.name = y.summary.artifactName extension)
    (h : xs.map (·.summary) = ys.map (·.summary)) :
    (xs.map (·.artifact)).map (·.name) = (ys.map (·.artifact)).map (·.name) := by
  have hnames : ∀ zs : List Generated,
      (∀ z ∈ zs, z.artifact.name = z.summary.artifactName extension) →
      (zs.map (·.artifact)).map (·.name) =
        (zs.map (·.summary)).map fun s => s.artifactName extension := by
    intro zs hzs
    rw [List.map_map, List.map_map]
    exact List.map_congr_left hzs
  rw [hnames xs hxs, hnames ys hys, h]

section

variable {marked : Crate} {p₀ : Progress} {o : Outcome} (hsteps : g₀.RunSteps c marked p₀ o r₀)
  (hmarker : g.marker = g₀.marker)

include hsteps hmarker

/-- Where one run has added the marker, so does another. -/
theorem Fails.failsMarked {e : GenerationError} (h : g.Fails c e) : g.FailsMarked marked e := by
  have hmarked : ∀ a, g.marker.definition = .ok a → a = r₀.marker := fun a ha =>
    Except.ok.inj (ha.symm.trans (hmarker ▸ hsteps.definition))
  cases h with
  | definition hfail =>
    rw [hmarker, hsteps.definition] at hfail
    cases hfail
  | conflict ha htaken =>
    rw [hmarked _ ha, hsteps.free] at htaken
    cases htaken
  | addMarker ha _ hrefused =>
    rw [hmarked _ ha, hsteps.addMarker] at hrefused
    cases hrefused
  | marked ha _ hadd hfails =>
    rw [hmarked _ ha, hsteps.addMarker] at hadd
    cases hadd
    exact hfails

theorem summaries_eq_of_run {r : Run} (h : (g.run c).result = .ok r) : r.summaries = r₀.summaries := by
  obtain ⟨marked', p, hsteps'⟩ := run_ok h
  have hsame : r.marker = r₀.marker :=
    Except.ok.inj (hsteps'.definition.symm.trans (hmarker ▸ hsteps.definition))
  have hadded := hsteps'.addMarker
  rw [hsame, hsteps.addMarker] at hadded
  rw [hsteps'.advances.1, hsteps.advances.1, hmarker, Except.ok.inj hadded]

variable (hnew : g₀.Consistent []) (hextension : g.extension = g₀.extension)

include hnew hextension

/-- Where the run of a new generator gives a result, another fails only for a text in its cache that is no
source file. -/
theorem unparsable_of_run (hg : g.Named) {e : GenerationError} (h : (g.run c).result = .error e) :
    ∃ s ∈ r₀.summaries, ∃ a, g.cache.lookup s = some a ∧ File.read? a.text = none ∧
      e = .unparsable (s.artifactName g.extension) := by
  obtain ⟨hsummaries, hadvances⟩ := hsteps.advances
  have hrendered : ∀ x ∈ r₀.generated, x.Rendered g₀.extension :=
    fun x hx => hnew.rendered_of_makes (hadvances.makes x hx)
  rw [← hmarker] at hsummaries
  cases Fails.failsMarked hsteps hmarker (run_failed h).1 with
  | repeated hrepeated =>
    rw [hmarker, hextension, firstRepeated?_eq_none.2 ⟨hsteps.distinct, by simp⟩] at hrepeated
    cases hrepeated
  | produce _ hfail =>
    have hrenders : ∀ s ∈ marked.summaries g.marker.path, ∃ code, DisplayCode.ofSummary s = .ok code := by
      rw [← hsummaries]
      refine List.forall_mem_map.2 fun x hx => ?_
      obtain ⟨-, code, hcode, -⟩ := hrendered x hx
      exact ⟨code, hcode⟩
    obtain ⟨p, hp⟩ := produceAll_of_rendered hrenders ⟨g.tally, [], [], []⟩
    rw [hp] at hfail
    cases hfail
  | @add p _ _ _ hproduced hrefused =>
    obtain ⟨hmade, hmakes⟩ := summaries_of_produceAll hproduced
    have hname : ∀ x ∈ p.generated, x.artifact.name = x.summary.artifactName g.extension :=
      fun x hx => (hmakes x hx).name_eq hg
    -- the names are those that the new generator has given, so the crate has room for them
    have hnames : (p.generated.map (·.artifact)).map (·.name) =
        (p₀.generated.map (·.artifact)).map (·.name) := by
      rw [← hsteps.generated]
      refine names_congr hname (fun x hx => ?_) (hmade.trans hsummaries.symm)
      rw [hextension]
      exact (hrendered x hx).name_eq
    obtain ⟨hnodup, hfree⟩ := addAll_ok hsteps.added
    have hroom : ∀ a ∈ p.generated.map (·.artifact), marked.contains a.name = false := by
      intro a ha
      have hmem : a.name ∈ (p₀.generated.map (·.artifact)).map (·.name) :=
        hnames ▸ List.mem_map_of_mem ha
      obtain ⟨b, hb, hsame⟩ := List.mem_map.1 hmem
      rw [← hsame]
      exact hfree b hb
    obtain ⟨a, ha, he, hunreadable⟩ := addAll_unparsable (hnames ▸ hnodup) hroom hrefused
    obtain ⟨x, hx, rfl⟩ := List.mem_map.1 ha
    refine ⟨x.summary, ?_, x.artifact, ?_, hunreadable, by rw [he, hname x hx]⟩
    · rw [hsummaries, ← hmade]
      exact List.mem_map_of_mem hx
    · exact (hmakes x hx).resolve_right fun hnone => hnone.2.reads hunreadable

end

/-- What a run has taken from the cache could be read. -/
theorem reads_of_run {r : Run} (h : (g.run c).result = .ok r) {s : Summary} (hs : s ∈ r.summaries)
    {a : Artifact} (ha : g.cache.lookup s = some a) : File.read? a.text ≠ none := by
  obtain ⟨marked, p, hsteps⟩ := run_ok h
  obtain ⟨x, hx, rfl⟩ := List.mem_map.1 hs
  rw [← (hsteps.advances.2.makes x hx).eq_of_lookup ha]
  rw [hsteps.generated] at hx
  exact addAll_reads hsteps.added _ (List.mem_map_of_mem hx)

/-- Over a crate where the run of a new generator gives a result, the run of one that starts from a record,
whatever the record and the texts are, gives one for the same summaries, or else it fails for a recorded
text that is no source file. It gives a result exactly if all texts can be read that it has started with for
these summaries. -/
theorem run_seeded {path extension : String} (hnew : create path extension = .ok g₀)
    (hr : (g₀.run c).result = .ok r₀) (text? : ManifestEntry → Option String) (m : Manifest)
    (hg : g = g₀.seed (g₀.recorded text? m)) :
    (∀ r, (g.run c).result = .ok r → r.summaries = r₀.summaries) ∧
    ((∃ r, (g.run c).result = .ok r) ↔
      ∀ s ∈ r₀.summaries, ∀ a, g.cache.lookup s = some a → File.read? a.text ≠ none) ∧
    ∀ e, (g.run c).result = .error e → ∃ s ∈ r₀.summaries, ∃ text,
      s.toEntry extension ∈ m.entries ∧ text? (s.toEntry extension) = some text ∧
        File.read? text = none ∧ e = .unparsable (s.artifactName extension) := by
  have hconsistent := consistent_create hnew
  have hempty : g₀.cache = .empty := hconsistent.cache
  have hextension := (create_ok hnew).2
  have hmarker : g.marker = g₀.marker := by rw [hg]; rfl
  have hsame : g.extension = g₀.extension := by rw [hg]; rfl
  have hnamed : g.Named := hg ▸ named_seed hempty
  obtain ⟨marked, p₀, hsteps⟩ := run_ok hr
  have hfails : ∀ e, (g.run c).result = .error e → ∃ s ∈ r₀.summaries, ∃ a,
      g.cache.lookup s = some a ∧ File.read? a.text = none ∧
        e = .unparsable (s.artifactName g.extension) :=
    fun e he => unparsable_of_run hsteps hmarker hconsistent hsame hnamed he
  refine ⟨fun r h => summaries_eq_of_run hsteps hmarker h, ⟨?_, fun hreads => ?_⟩, fun e he => ?_⟩
  · rintro ⟨r, h⟩ s hs a ha
    rw [← summaries_eq_of_run hsteps hmarker h] at hs
    exact reads_of_run h hs ha
  · cases h : (g.run c).result with
    | ok r => exact ⟨r, rfl⟩
    | error e =>
      obtain ⟨s, hs, a, ha, hunreadable, -⟩ := hfails e h
      exact absurd hunreadable (hreads s hs a ha)
  · obtain ⟨s, hs, a, ha, hunreadable, rfl⟩ := hfails e he
    rw [hg] at ha
    obtain ⟨hentry, htext, -⟩ := mem_recorded (mem_of_lookup_seed hempty ha)
    rw [hextension] at hentry htext
    rw [hsame, hextension]
    exact ⟨s, hs, a.text, hentry, htext, hunreadable, rfl⟩

/-- A record of one file, in which a merge has left its marks. -/
theorem run_seeded_conflict : ∃ (g₀ : Generator) (c : Crate) (r₀ : Run),
    create "crate::M" "rs" = .ok g₀ ∧ (g₀.run c).result = .ok r₀ ∧
      ¬ ∃ r, ((g₀.seed (g₀.recorded (fun _ => some "<<<<<<< ours")
        ⟨"demo", some "__strgen_marker.M.g.rs", [⟨"demo.A.g.rs", ⟨"demo", "A", ["x"]⟩⟩]⟩)).run c).result =
          .ok r := by
  have hforetold : ((⟨"demo", []⟩ : Crate).add "lib.rs" [] "#[M]pub struct A{pub x:u8}").toOption.bind
      (fun c => ((⟨⟨"crate::M", [], "M"⟩, "rs", .empty, .empty⟩ : Generator).foretell? (.plain "M") c).map
        fun o => o.2.summaries) = some [⟨"demo", "A", ["x"]⟩] := by decide +kernel
  obtain ⟨c, -, h⟩ := Option.bind_eq_some_iff.1 hforetold
  obtain ⟨⟨g, r₀⟩, hrun, hsummaries⟩ := Option.map_eq_some_iff.1 h
  obtain ⟨hr, -⟩ := run_of_foretell? (fun _ => (consistent_create create_root).rendered_of_makes) rfl rfl hrun
  have hunreadable : (File.read? "<<<<<<< ours").isNone = true := by decide +kernel
  refine ⟨_, c, r₀, create_root, hr, fun hok => ?_⟩
  refine ((run_seeded create_root hr _ _ rfl).2.1.1 hok) ⟨"demo", "A", ["x"]⟩ ?_
    ⟨"demo.A.g.rs", [], "<<<<<<< ours"⟩ (by decide +kernel) (Option.isNone_iff_eq_none.1 hunreadable)
  rw [hsummaries]
  exact List.mem_singleton_self _

end Generator

end DisplayGen
