import DisplayGen.Proofs.Emission.Reread
import DisplayGen.Proofs.Generator.Run
import DisplayGen.Proofs.Marker

/-!
# Runs without reading

A run adds all that it generates to the crate, and there it is read. It is never refused for its text, and
what is read has no part in what the run gives. So the run can be told without reading anything of it:
`Generator.foretell?` compares names only, and gives what the run gives (`foretell?_eq_some`).

Generated texts are long next to the sources, so this is also the way to compute what a run gives.
-/

namespace DisplayGen

open Source

namespace Generator

variable {g g' : Generator} {c : Crate} {r : Run} {i : Ident}

/-- What is left of the generator after a run, and what the run gives. All names must be free; `i` is the
name in the marker's definition. -/
def foretell? (g : Generator) (i : Ident) (c : Crate) : Option (Generator × Run) :=
  match g.marker.definition with
  | .error _ => none
  | .ok marker =>
    match g.produceAll ⟨g.tally, [], [], []⟩ ((g.marker.definedIn i c).summaries g.marker.path) with
    | (_, some _) => none
    | (p, none) =>
      let names := marker.name :: p.generated.map (·.artifact.name)
      if names.Nodup ∧ ∀ n ∈ names, c.contains n = false then
        let (removed, cache) := g.cache.commit p.generated
        some ({ g with tally := p.tally, cache }, ⟨marker, p.generated, p.emitted, p.reused, removed⟩)
      else none

/-- Renderings of fresh names are all taken in. -/
theorem addAll_rendered {gs : List Generated} (hrendered : ∀ x ∈ gs, x.Rendered g.extension)
    (hnames : (gs.map (·.artifact.name)).Nodup) (hfree : ∀ x ∈ gs, c.contains x.artifact.name = false) :
    ∃ c', addAll c (gs.map (·.artifact)) = (c', none) := by
  cases hadd : addAll c (gs.map (·.artifact)) with
  | mk c' failure =>
    cases failure with
    | none => exact ⟨c', rfl⟩
    | some e =>
      obtain ⟨a, ha, -, hunreadable⟩ :=
        addAll_unparsable (by rwa [List.map_map]) (List.forall_mem_map.2 hfree) hadd
      obtain ⟨x, hx, rfl⟩ := List.mem_map.1 ha
      exact absurd hunreadable (hrendered x hx).reads

/-- What it takes for a run to be told: the steps of the run, with all names free. -/
theorem of_foretell? (hf : g.foretell? i c = some (g', r)) : ∃ marker p,
    g.marker.definition = .ok marker ∧
      g.produceAll ⟨g.tally, [], [], []⟩ ((g.marker.definedIn i c).summaries g.marker.path) = (p, none) ∧
      (marker.name :: p.generated.map (·.artifact.name)).Nodup ∧
      (∀ n ∈ marker.name :: p.generated.map (·.artifact.name), c.contains n = false) ∧
      g' = { g with tally := p.tally, cache := (g.cache.commit p.generated).2 } ∧
      r = ⟨marker, p.generated, p.emitted, p.reused, (g.cache.commit p.generated).1⟩ := by
  unfold foretell? at hf
  split at hf
  · cases hf
  · rename_i marker hdefinition
    split at hf
    · cases hf
    · rename_i p hproduce
      dsimp only at hf
      split at hf
      · rename_i hnames
        cases hf
        exact ⟨marker, p, hdefinition, hproduce, hnames.1, hnames.2, rfl, rfl⟩
      · cases hf

theorem run_of_foretell? (hmakes : ∀ x, g.Makes x → x.Rendered g.extension)
    (hi : i.written = g.marker.name) (hname : i.isName = true) (hf : g.foretell? i c = some (g', r)) :
    (g.run c).result = .ok r ∧ (g.run c).generator = g' := by
  obtain ⟨marker, p, hdefinition, hproduce, hnodup, hfree, rfl, rfl⟩ := of_foretell? hf
  obtain ⟨hfresh, hnodup⟩ := List.nodup_cons.1 hnodup
  obtain ⟨hmarker, hfree⟩ := List.forall_mem_cons.1 hfree
  have hadd := Marker.addArtifact_definition hi hname hdefinition hmarker
  obtain ⟨hsummaries, hmade⟩ := summaries_of_produceAll hproduce
  have hrendered : ∀ x ∈ p.generated, x.Rendered g.extension := fun x hx => hmakes x (hmade x hx)
  -- the run compares the names that the summaries will have, before it makes anything
  have hdistinct : firstRepeated? [] (((g.marker.definedIn i c).summaries g.marker.path).map
      fun s => s.artifactName g.extension) = none := by
    refine firstRepeated?_eq_none.2 ⟨?_, by simp⟩
    rw [← hsummaries, List.map_map]
    rwa [List.map_congr_left fun x hx => (hrendered x hx).name_eq] at hnodup
  have hfree' : ∀ x ∈ p.generated, (g.marker.definedIn i c).contains x.artifact.name = false := by
    intro x hx
    have hx := List.mem_map_of_mem (f := (·.artifact.name)) hx
    rw [Crate.contains_add hadd, hfree _ hx, Bool.false_or, beq_eq_false_iff_ne]
    exact fun heq => hfresh (heq ▸ hx)
  obtain ⟨c', hall⟩ := addAll_rendered hrendered hnodup hfree'
  unfold run
  simp only [hdefinition, hmarker, hadd, Bool.false_eq_true, if_false]
  unfold runMarked
  simp only [hdistinct, hproduce, hall, and_self]

/-- What is told of a run is what it gives, and every run that gives a result can be told. The generator must
make renderings only. -/
theorem foretell?_eq_some (hmakes : ∀ x, g.Makes x → x.Rendered g.extension)
    (hi : i.written = g.marker.name) (hname : i.isName = true) :
    g.foretell? i c = some (g', r) ↔ (g.run c).result = .ok r ∧ (g.run c).generator = g' := by
  refine ⟨run_of_foretell? hmakes hi hname, ?_⟩
  rintro ⟨hr, rfl⟩
  obtain ⟨marked, p, hsteps⟩ := run_ok hr
  have hadd := Marker.addArtifact_definition hi hname hsteps.definition hsteps.free
  obtain rfl : marked = g.marker.definedIn i c := Except.ok.inj (hsteps.addMarker.symm.trans hadd)
  have hnames := hsteps.names
  have hfree : ∀ n ∈ r.marker.name :: r.generated.map (·.artifact.name), c.contains n = false := by
    refine List.forall_mem_cons.2 ⟨hsteps.free, fun n hn => ?_⟩
    obtain ⟨x, hx, rfl⟩ := List.mem_map.1 hn
    have hx := (addAll_ok hsteps.added).2 _ (List.mem_map_of_mem (hsteps.generated ▸ hx))
    rw [Crate.contains_add hadd, Bool.or_eq_false_iff] at hx
    exact hx.1
  rw [hsteps.generated] at hnames hfree
  unfold foretell?
  simp only [hsteps.definition, hsteps.produced]
  rw [if_pos ⟨hnames, hfree⟩, hsteps.generator]
  obtain ⟨marker, generated, emitted, reused, removed⟩ := r
  obtain rfl := hsteps.generated
  obtain rfl := hsteps.emitted
  obtain rfl := hsteps.reused
  obtain rfl := hsteps.removed
  rfl

end Generator

end DisplayGen
