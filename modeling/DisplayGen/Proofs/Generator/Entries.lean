import DisplayGen.Proofs.Generator.Seeded

/-!
# What the cache of a generator has

A generator takes artifacts into its cache from records that it finds and from its own runs, and copies them
from one run to the next. Of a record it takes the texts on trust, but the name and the module of an artifact
it makes itself, from the summary; so these two are right whatever the record says.

* `Generated.Placed`: the artifact has the name and the module that its summary is given.
* `Generator.Evolves`: the generators that come about from a new one, by any records and any runs.
* `Generator.Keeps`: what they all keep. `Keeps.seed` and `Keeps.run` are its steps.
* `Generator.entries_placed`: in such a generator, each entry of the cache stands under the key of its own
  summary, and all artifacts are placed, in the cache and in what a run gives.
-/

namespace DisplayGen

/-- The artifact has the name and the module that its summary is given. -/
structure Generated.Placed (extension : String) (x : Generated) : Prop where
  name : x.artifact.name = x.summary.artifactName extension
  module : x.artifact.module = x.summary.modulePath

theorem Generated.Rendered.placed {extension : String} {x : Generated} (h : x.Rendered extension) :
    x.Placed extension := by
  obtain ⟨count, code, -, heq⟩ := h
  constructor
  · rw [heq]
  · rw [heq]

namespace Generator

variable {g : Generator} {c : Crate} {r : Run} {x : Generated} {path extension : String}

/-- The generators that come about from a new one. They start from any records with any texts and run over any
crates, in any order, and some runs may fail. Other generators may count in the same tally in between. -/
inductive Evolves (path extension : String) : Generator → Prop where
  | new {g : Generator} (h : create path extension = .ok g) : Evolves path extension g
  | seed {g : Generator} (h : Evolves path extension g) (text? : ManifestEntry → Option String)
      (m : Manifest) : Evolves path extension (g.seed (g.recorded text? m))
  | run {g : Generator} (h : Evolves path extension g) (c : Crate) :
      Evolves path extension (g.run c).generator
  | count {g : Generator} (h : Evolves path extension g) (tally : Tally) :
      Evolves path extension { g with tally }

/-- The entries of the cache are in the order of their keys, which are distinct, and all are placed. -/
structure Keeps (g : Generator) (extension : String) : Prop where
  bound : g.extension = extension
  sorted : Generated.Sorted g.cache.entries
  placed : ∀ x ∈ g.cache.entries, x.Placed extension

theorem placed_of_mem_recorded {text? : ManifestEntry → Option String} {m : Manifest}
    (h : x ∈ g.recorded text? m) : x.Placed g.extension := by
  obtain ⟨e, -, hx⟩ := List.mem_filterMap.1 h
  obtain ⟨hname, text, -, rfl⟩ := recorded?_eq_some.1 hx
  exact ⟨hname, rfl⟩

theorem keeps_create (h : create path extension = .ok g) : g.Keeps extension := by
  have hcache : g.cache = .empty := (consistent_create h).cache
  refine ⟨(create_ok h).2, ?_, ?_⟩
  · rw [hcache]
    exact List.Pairwise.nil
  · intro x hx
    rw [hcache] at hx
    cases hx

namespace Keeps

theorem seed (h : g.Keeps extension) (text? : ManifestEntry → Option String) (m : Manifest) :
    (g.seed (g.recorded text? m)).Keeps extension where
  bound := h.bound
  sorted := Cache.sorted_foldl_insert h.sorted
  placed x hx := by
    obtain hold | hnew := Cache.mem_entries_foldl_insert hx
    · exact h.placed x hold
    · exact h.bound ▸ placed_of_mem_recorded hnew

theorem run (h : g.Keeps extension) (c : Crate) : (g.run c).generator.Keeps extension where
  bound := (run_extension g c).trans h.bound
  sorted := by
    cases hr : (g.run c).result with
    | error e =>
      -- wherever it fails, only the tally has moved
      obtain ⟨tally, hgenerator⟩ := run_error hr
      rw [hgenerator]
      exact h.sorted
    | ok r =>
      obtain ⟨-, -, hcache⟩ := run_makes hr
      rw [hcache]
      exact Cache.sorted_ofList r.generated
  placed x hx := by
    obtain hold | hnew := mem_entries_run hx
    · exact h.placed x hold
    · exact h.bound ▸ hnew.placed

/-- What a run gives is placed, whether it was in the cache or is emitted in the run. -/
theorem placed_run (h : g.Keeps extension) (hr : (g.run c).result = .ok r) (hx : x ∈ r.generated) :
    x.Placed extension := by
  obtain hold | hnew := ((run_makes hr).2.1 x hx).mem_or_rendered
  · exact h.placed x hold
  · exact h.bound ▸ hnew.placed

end Keeps

theorem Evolves.keeps (h : Evolves path extension g) : g.Keeps extension := by
  induction h with
  | new h => exact keeps_create h
  | seed _ text? m ih => exact ih.seed text? m
  | run _ c ih => exact ih.run c
  | count _ tally ih => exact ⟨ih.bound, ih.sorted, ih.placed⟩

/-- In a generator, however it came about, each entry of the cache stands under the key of its own summary and
under no other, and its artifact has the name and the module of that summary. So each artifact that a run
gives has the name and the module of the summary that it is given for. -/
theorem entries_placed (h : Evolves path extension g) : g.extension = extension ∧
    (∀ k x, g.cache.get? k = some x ↔ x ∈ g.cache.entries ∧ x.summary.key = k) ∧
    (∀ x ∈ g.cache.entries, x.Placed extension) ∧
    ∀ c r, (g.run c).result = .ok r → ∀ x ∈ r.generated, x.Placed extension :=
  ⟨h.keeps.bound, fun _ _ => Cache.get?_eq_some h.keeps.sorted.nodup_keys, h.keeps.placed,
    fun _ _ hr _ hx => h.keeps.placed_run hr hx⟩

/-- What was emitted for a struct. -/
def emittedUnit : Generated :=
  ⟨⟨"d", "P", []⟩, ((emit "rs" .empty ⟨"d", "P", []⟩).toOption.map (·.1)).getD default⟩

theorem rendered_emittedUnit : emittedUnit.Rendered "rs" := by
  have hemits : (emit "rs" .empty ⟨"d", "P", []⟩).toOption.isSome = true := by decide +kernel
  obtain ⟨⟨a, tally⟩, ha⟩ := Option.isSome_iff_exists.1 hemits
  obtain ⟨code, hcode, heq, -⟩ := emit_ok (toOption_eq_some ha)
  have hartifact : emittedUnit.artifact = a := by
    unfold emittedUnit
    rw [ha]
    rfl
  exact ⟨_, code, hcode, hartifact.trans heq⟩

/-- A generator that starts from the record of one struct, over a crate with a second one. -/
theorem entries_placed_seeded : ∃ (g : Generator) (c : Crate) (r : Run), Evolves "crate::M" "rs" g ∧
    (g.run c).result = .ok r ∧ r.emitted = ["d.Q.g.rs"] ∧ r.reused = ["d.P.g.rs"] ∧
      ∀ x ∈ r.generated, x.Placed "rs" := by
  have hforetold : ((⟨"d", []⟩ : Crate).add "lib.rs" [] "#[M]struct P;#[M]struct Q;").toOption.bind
      (fun c => (((⟨⟨"crate::M", [], "M"⟩, "rs", .empty, .empty⟩ : Generator).seed
        [emittedUnit]).foretell? (.plain "M") c).map fun o => (o.2.emitted, o.2.reused)) =
      some (["d.Q.g.rs"], ["d.P.g.rs"]) := by decide +kernel
  obtain ⟨c, -, h⟩ := Option.bind_eq_some_iff.1 hforetold
  obtain ⟨⟨g, r⟩, hrun, hnames⟩ := Option.map_eq_some_iff.1 h
  obtain ⟨hemitted, hreused⟩ := Prod.mk.inj hnames
  have hrendered : ∀ x ∈ [emittedUnit], x.Rendered "rs" := List.forall_mem_singleton.2 rendered_emittedUnit
  -- the record of what was emitted gives it back, and nothing else
  have hrecorded := List.perm_singleton.1 (recorded_manifest
    (g := ⟨⟨"crate::M", [], "M"⟩, "rs", .empty, .empty⟩) (r := ⟨default, [emittedUnit], [], [], []⟩)
    (fun _ => some emittedUnit.artifact.text) "d" hrendered fun x hx => by rw [List.mem_singleton.1 hx])
  have hkeys : ([emittedUnit].map Generated.key).Nodup := List.nodup_singleton _
  have hconsistent := consistent_seed (g := ⟨⟨"crate::M", [], "M"⟩, "rs", .empty, .empty⟩) rfl hkeys
    hrendered
  obtain ⟨hr, -⟩ := run_of_foretell? (fun _ => hconsistent.rendered_of_makes) rfl rfl hrun
  have hevolves := Evolves.seed (.new create_root) (fun _ => some emittedUnit.artifact.text)
    (Run.manifest ⟨default, [emittedUnit], [], [], []⟩ "d" "rs")
  rw [hrecorded] at hevolves
  obtain ⟨-, -, -, hplaced⟩ := entries_placed hevolves
  exact ⟨_, c, r, hevolves, hr, hemitted, hreused, hplaced c r hr⟩

end Generator

end DisplayGen
