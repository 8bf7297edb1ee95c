import DisplayGen.Proofs.Emission.Writable
import DisplayGen.Proofs.Generator.History
import Mathlib.Logic.Function.Iterate

/-!
# What a run adds to a crate

Whether a run gives a result or fails, it takes nothing away from the crate that it runs over. It appends the
marker's definition, and then artifacts for the first of the summaries, up to the first that the crate refuses.

* `Crate.Takes`: a crate takes in artifacts, one after the other.
* `Generator.runMarked_takes`: what a run adds to a crate with the marker's definition.
* `Generator.run_appends`: the units after a run, and what further runs do with them.
-/

namespace DisplayGen

open Source

/-- The unit is the artifact, read. -/
structure SourceUnit.Holds (u : SourceUnit) (a : Artifact) : Prop where
  name : u.name = a.name
  module : u.module = a.module
  file : File.read? a.text = some u.file

namespace Crate

/-- The crate takes in artifacts, one after the other, and becomes another crate. -/
inductive Takes : Crate → List Artifact → Crate → Prop where
  | nil {c : Crate} : Takes c [] c
  | cons {c c₁ c' : Crate} {a : Artifact} {as : List Artifact} (h : c.addArtifact a = .ok c₁)
      (hs : Takes c₁ as c') : Takes c (a :: as) c'

/-- An artifact that is added becomes the last unit. -/
theorem addArtifact_ok {c c' : Crate} {a : Artifact} (h : c.addArtifact a = .ok c') :
    ∃ u, u.Holds a ∧ c' = { c with units := c.units ++ [u] } := by
  obtain ⟨-, file, hread, rfl⟩ := add_ok h
  exact ⟨_, ⟨rfl, rfl, hread⟩, rfl⟩

theorem nodup_addArtifact {c c' : Crate} {a : Artifact} (h : c.addArtifact a = .ok c')
    (hnames : (c.units.map (·.name)).Nodup) : (c'.units.map (·.name)).Nodup := by
  obtain ⟨hfree, file, -, rfl⟩ := add_ok h
  rw [List.map_append, List.map_singleton, ← List.concat_eq_append, List.nodup_concat]
  refine ⟨fun hmem => ?_, hnames⟩
  obtain ⟨u, hu, hname⟩ := List.mem_map.1 hmem
  have hthere : c.contains a.name = true := List.any_eq_true.2 ⟨u, hu, by simpa using hname⟩
  rw [hthere] at hfree
  cases hfree

namespace Takes

variable {c c' : Crate} {as : List Artifact}

/-- Nothing is changed but that units are appended, one for each artifact. -/
theorem units (h : c.Takes as c') :
    ∃ us, c' = { c with units := c.units ++ us } ∧ List.Forall₂ SourceUnit.Holds us as := by
  induction h with
  | nil => exact ⟨[], by rw [List.append_nil], .nil⟩
  | cons hadd _ ih =>
    obtain ⟨u, hu, rfl⟩ := addArtifact_ok hadd
    obtain ⟨us, rfl, hus⟩ := ih
    exact ⟨u :: us, by rw [List.append_assoc]; rfl, .cons hu hus⟩

/-- A crate refuses a name that it has, so the names of its units stay distinct. -/
theorem nodup (h : c.Takes as c') (hnames : (c.units.map (·.name)).Nodup) :
    (c'.units.map (·.name)).Nodup := by
  induction h with
  | nil => exact hnames
  | cons hadd _ ih => exact ih (nodup_addArtifact hadd hnames)

theorem contains (h : c.Takes as c') {n : String} (hn : c.contains n = true) :
    c'.contains n = true := by
  induction h with
  | nil => exact hn
  | cons hadd _ ih => exact ih (by rw [contains_add hadd, hn, Bool.true_or])

theorem contains_head {a : Artifact} (h : c.Takes (a :: as) c') : c'.contains a.name = true := by
  cases h with
  | cons hadd hs => exact hs.contains (by simp [contains_add hadd])

end Takes

end Crate

namespace Generator

variable {g : Generator} {c : Crate} {a : Artifact}

/-- A crate takes in artifacts up to the first that it refuses. -/
theorem addAll_takes (c : Crate) (as : List Artifact) : ∃ k ≤ as.length,
    c.Takes (as.take k) (addAll c as).1 ∧ ((addAll c as).2 = none ↔ k = as.length) := by
  fun_induction addAll c as with
  | case1 => exact ⟨0, Nat.le_refl 0, .nil, by simp⟩
  | case2 c a as c₁ hadd ih =>
    obtain ⟨k, hk, htakes, hall⟩ := ih
    exact ⟨k + 1, Nat.succ_le_succ hk, .cons hadd htakes, by simpa using hall⟩
  | case3 => exact ⟨0, Nat.zero_le _, .nil, by simp⟩

theorem produce_error {p : Progress} {s : Summary} {e : GenerationError} (h : g.produce p s = .error e) :
    ∃ n, e = .invalidIdentifier n := by
  have hproduces := g.produces p s
  rw [h] at hproduces
  cases hproduces with
  | failed _ hcode => exact DisplayCode.ofSummary_error hcode

theorem produceAll_error {p p' : Progress} {ss : List Summary} {e : GenerationError}
    (h : g.produceAll p ss = (p', some e)) : ∃ n, e = .invalidIdentifier n := by
  fun_induction produceAll g p ss with
  | case1 => cases h
  | case2 p s ss p₁ hproduce ih => exact ih h
  | case3 p s ss e' hproduce =>
    cases h
    exact produce_error hproduce

/-- Once the marker's definition is there, it is no reason to fail any more. -/
theorem FailsMarked.ne_markerConflict {e : GenerationError} (h : g.FailsMarked c e) (n : String) :
    e ≠ .markerConflict n := by
  cases h with
  | repeated => exact nofun
  | produce _ h =>
    obtain ⟨name, rfl⟩ := produceAll_error h
    exact nofun
  | add _ _ h =>
    obtain ⟨a, -, ⟨rfl, -⟩ | ⟨rfl, -⟩⟩ := addAll_failed h
    · exact nofun
    · exact nofun

/-- The artifacts are made for the first of the summaries of a crate with the marker's definition, and the
units are the definition and these artifacts. -/
structure Adds (g : Generator) (marker : Artifact) (marked : Crate) (made : List Generated)
    (added : List SourceUnit) : Prop where
  makes : ∀ x ∈ made, g.Makes x
  summaries : made.map (·.summary) = (marked.summaries g.marker.path).take made.length
  units : List.Forall₂ SourceUnit.Holds added (marker :: made.map (·.artifact))

/-- A crate with the marker's definition takes in artifacts for the first of its summaries. They are for all
of them exactly if the run gives a result. -/
theorem runMarked_takes (g : Generator) (marker : Artifact) (c : Crate) : ∃ made : List Generated,
    c.Takes (made.map (·.artifact)) (g.runMarked marker c).crate ∧
      (∀ x ∈ made, g.Makes x) ∧
      made.map (·.summary) = (c.summaries g.marker.path).take made.length ∧
      ((∃ r, (g.runMarked marker c).result = .ok r) ↔
        made.length = (c.summaries g.marker.path).length) ∧
      ∀ r, (g.runMarked marker c).result = .ok r → r.generated = made := by
  have hgoes := g.runMarked_goes marker c
  generalize g.runMarked marker c = o at hgoes ⊢
  cases hgoes with
  | repeated hrepeated =>
    have hsome : 0 < (c.summaries g.marker.path).length := by
      rw [← List.length_map]
      exact List.length_pos_of_mem (mem_of_firstRepeated? hrepeated)
    exact ⟨[], .nil, List.forall_mem_nil _, rfl, iff_of_false nofun hsome.ne, nofun⟩
  | stuck _ hproduced =>
    have hsome : 0 < (c.summaries g.marker.path).length := by
      refine List.length_pos_iff.2 fun hnone => ?_
      rw [hnone] at hproduced
      cases hproduced
    exact ⟨[], .nil, List.forall_mem_nil _, rfl, iff_of_false nofun hsome.ne, nofun⟩
  | @refused p c' e _ hproduced hadded =>
    obtain ⟨hsummaries, hmakes⟩ := summaries_of_produceAll hproduced
    obtain ⟨k, hk, htakes, hall⟩ := addAll_takes c (p.generated.map (·.artifact))
    rw [hadded, ← List.map_take] at htakes
    rw [hadded] at hall
    rw [List.length_map] at hk hall
    have htake : (p.generated.take k).length = k := List.length_take_of_le hk
    refine ⟨p.generated.take k, htakes, fun x hx => hmakes x (List.mem_of_mem_take hx), ?_, ?_, nofun⟩
    · rw [htake, List.map_take, hsummaries]
    · rw [htake, ← hsummaries, List.length_map, ← hall]
      exact iff_of_false nofun nofun
  | @done p c' _ hproduced hadded =>
    obtain ⟨hsummaries, hmakes⟩ := summaries_of_produceAll hproduced
    obtain ⟨k, -, htakes, hall⟩ := addAll_takes c (p.generated.map (·.artifact))
    rw [hadded] at htakes hall
    rw [hall.1 rfl, List.take_length] at htakes
    have hlength : p.generated.length = (c.summaries g.marker.path).length := by
      rw [← hsummaries, List.length_map]
    refine ⟨p.generated, htakes, hmakes, ?_, iff_of_true ⟨_, rfl⟩ hlength, ?_⟩
    · rw [hsummaries, hlength, List.take_length]
    · rintro r ⟨⟩
      rfl

theorem run_eq_of_contains (ha : g.marker.definition = .ok a) (hthere : c.contains a.name = true) :
    g.run c = ⟨g, c, .error (.markerConflict a.name)⟩ := by
  unfold run
  simp only [ha, hthere, if_true]

/-- A run over a crate that has room for the marker's definition adds it, and goes on with the crate that has
it. -/
theorem run_eq_of_free (ha : g.marker.definition = .ok a) (hfree : c.contains a.name = false) :
    ∃ marked, c.addArtifact a = .ok marked ∧ g.run c = g.runMarked a marked := by
  have hexact : g.marker.hasExactName = true := by
    unfold Marker.definition at ha
    split at ha
    · assumption
    · cases ha
  obtain ⟨i, hread, hi⟩ := Marker.hasExactName_iff.1 hexact
  have hadd := Marker.addArtifact_definition hi (Ident.read?_eq_some.1 hread).2 ha hfree
  refine ⟨_, hadd, ?_⟩
  unfold run
  simp only [ha, hfree, hadd, if_false, Bool.false_eq_true]

end Generator

/-- One more run of the same generator over the crate that a run has left. -/
def Outcome.again (o : Outcome) : Outcome := o.generator.run o.crate

namespace Generator

variable {g : Generator} {c : Crate} {a : Artifact}

/-- Where a run has left the marker's definition, no further run changes anything. -/
theorem iterate_again {o : Outcome} (ha : o.generator.marker.definition = .ok a)
    (hthere : o.crate.contains a.name = true) (n : Nat) :
    Outcome.again^[n + 1] o = ⟨o.generator, o.crate, .error (.markerConflict a.name)⟩ := by
  have hagain : o.again = ⟨o.generator, o.crate, .error (.markerConflict a.name)⟩ :=
    run_eq_of_contains ha hthere
  have hfixed : Outcome.again ⟨o.generator, o.crate, .error (.markerConflict a.name)⟩ =
      ⟨o.generator, o.crate, .error (.markerConflict a.name)⟩ := run_eq_of_contains ha hthere
  rw [Function.iterate_succ_apply, hagain, Function.iterate_fixed hfixed]

/-- A run only appends to the units of a crate: nothing, where the name of the marker's file is taken, and
else the marker's definition and the artifacts for the first of the summaries, which are all of them exactly if
the run gives a result. The names of the units stay distinct. Every further run of the generator over the crate
fails, as the marker's definition is there, and changes nothing. -/
theorem run_appends (ha : g.marker.definition = .ok a) (hnames : (c.units.map (·.name)).Nodup) :
    ∃ added, (g.run c).crate = { c with units := c.units ++ added } ∧
      ((g.run c).crate.units.map (·.name)).Nodup ∧
      (added = [] ↔ ∃ n, (g.run c).result = .error (.markerConflict n)) ∧
      (added ≠ [] → ∃ marked made, c.addArtifact a = .ok marked ∧ g.Adds a marked made added ∧
        ((∃ r, (g.run c).result = .ok r) ↔
          made.length = (marked.summaries g.marker.path).length) ∧
        ∀ r, (g.run c).result = .ok r → r.marker = a ∧ r.generated = made) ∧
      ∀ n, Outcome.again^[n + 1] (g.run c) =
        ⟨(g.run c).generator, (g.run c).crate, .error (.markerConflict a.name)⟩ := by
  have hlater : (g.run c).crate.contains a.name = true → ∀ n, Outcome.again^[n + 1] (g.run c) =
      ⟨(g.run c).generator, (g.run c).crate, .error (.markerConflict a.name)⟩ :=
    iterate_again (by rw [run_marker, ha])
  cases hthere : c.contains a.name with
  | true =>
    have hrun := run_eq_of_contains ha hthere
    have hlater := hlater (by rw [hrun]; exact hthere)
    rw [hrun] at hlater ⊢
    refine ⟨[], by rw [List.append_nil], hnames, ?_, fun hne => absurd rfl hne, hlater⟩
    exact iff_of_true rfl ⟨_, rfl⟩
  | false =>
    obtain ⟨marked, hadd, hrun⟩ := run_eq_of_free ha hthere
    obtain ⟨made, htakes, hmakes, hsummaries, hall, hgenerated⟩ := runMarked_takes g a marked
    have htakes := Crate.Takes.cons hadd htakes
    obtain ⟨added, hunits, hholds⟩ := htakes.units
    rw [← hrun] at htakes hunits hall hgenerated
    have hmarker : (g.run c).crate.contains a.name = true := htakes.contains_head
    have hne : added ≠ [] := by
      rintro rfl
      cases hholds
    refine ⟨added, hunits, htakes.nodup hnames, ?_, fun _ => ?_, hlater hmarker⟩
    · refine iff_of_false hne ?_
      rintro ⟨n, hconflict⟩
      rw [hrun] at hconflict
      exact (runMarked_failed hconflict).1.ne_markerConflict n rfl
    · refine ⟨marked, made, hadd, ⟨hmakes, hsummaries, hholds⟩, hall, fun r hr => ⟨?_, hgenerated r hr⟩⟩
      obtain ⟨_, _, hsteps⟩ := run_ok hr
      exact Except.ok.inj (hsteps.definition.symm.trans ha)

/-- Two marked structs, of which the generator has the first in its cache, and a source file that has the name
of the second one's file: the run adds the marker's definition and the first artifact, and fails. -/
theorem run_appends_refused : ∃ (g : Generator) (c : Crate) (added : List SourceUnit),
    c.units.map (·.name) = ["lib.rs", "demo.B.g.rs"] ∧
      (g.run c).crate = { c with units := c.units ++ added } ∧
      added.map (·.name) = ["__strgen_marker.M.g.rs", "demo.A.g.rs"] ∧
      (g.run c).result = .error (.nameCollision "demo.B.g.rs") ∧
      ∀ n, Outcome.again^[n + 1] (g.run c) =
        ⟨(g.run c).generator, (g.run c).crate, .error (.markerConflict "__strgen_marker.M.g.rs")⟩ := by
  have hrun : (((⟨"demo", []⟩ : Crate).add "lib.rs" [] "#[M]pub struct A;#[M]pub struct B;").bind
      (·.add "demo.B.g.rs" ["b"] "")).toOption.map (fun c =>
        let o := (⟨⟨"crate::M", [], "M"⟩, "rs",
          ⟨[⟨⟨"demo", "A", []⟩, ⟨"demo.A.g.rs", [], "mod a;"⟩⟩]⟩, .empty⟩ : Generator).run c
        (c.units.map (·.name), o.crate.units.map (·.name), o.result.map fun _ => ())) =
      some (["lib.rs", "demo.B.g.rs"],
        ["lib.rs", "demo.B.g.rs", "__strgen_marker.M.g.rs", "demo.A.g.rs"],
        .error (.nameCollision "demo.B.g.rs")) := by decide +kernel
  obtain ⟨c, -, h⟩ := Option.map_eq_some_iff.1 hrun
  obtain ⟨hbefore, h⟩ := Prod.mk.inj h
  obtain ⟨hafter, hresult⟩ := Prod.mk.inj h
  have hdefinition : (⟨"crate::M", [], "M"⟩ : Marker).definition =
      .ok ⟨"__strgen_marker.M.g.rs", [], Marker.definitionText "M"⟩ := toOption_eq_some (by decide +kernel)
  obtain ⟨added, hunits, -, -, -, hlater⟩ := run_appends (g := ⟨⟨"crate::M", [], "M"⟩, "rs",
    ⟨[⟨⟨"demo", "A", []⟩, ⟨"demo.A.g.rs", [], "mod a;"⟩⟩]⟩, .empty⟩) hdefinition (by rw [hbefore]; decide)
  refine ⟨_, c, added, hbefore, hunits, ?_, ?_, hlater⟩
  · rw [hunits, List.map_append, hbefore] at hafter
    exact (List.append_right_inj ["lib.rs", "demo.B.g.rs"]).1 hafter
  · cases hr : (Generator.run _ c).result with
    | ok r =>
      rw [hr] at hresult
      cases hresult
    | error e =>
      rw [hr] at hresult
      cases hresult
      rfl

end Generator

end DisplayGen
