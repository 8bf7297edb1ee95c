import DisplayGen.Generator
import DisplayGen.Proofs.Cache
import DisplayGen.Proofs.Crate
import DisplayGen.Proofs.Emission

/-!
# What a run does

* `produces`: the ways that generating for one summary can go (`Generator.Produces`).
* `produceAll_ok`: generating for summaries, one after the other, takes those that the cache holds
  from it (`Generator.holds`) and renders the others.
* `run_goes`: the ways that a run can go, each with what it leaves (`Generator.Goes`).
* `run_ok`: all that a run which gives a result does.
* `run_failed`: where a run can fail, and how (`Generator.Fails`). It changes nothing of the generator but
  its tally.
-/

namespace DisplayGen

theorem firstRepeated?_eq_none {seen names : List String} :
    firstRepeated? seen names = none ↔ names.Nodup ∧ ∀ n ∈ names, n ∉ seen := by
  induction names generalizing seen with
  | nil => simp [firstRepeated?]
  | cons n ns ih =>
    unfold firstRepeated?
    by_cases hn : n ∈ seen
    · simp [hn]
    · rw [if_neg (by simpa using hn), ih, List.nodup_cons]
      constructor
      · rintro ⟨hnodup, hns⟩
        refine ⟨⟨fun hmem => (hns n hmem) (List.mem_cons_self ..), hnodup⟩, ?_⟩
        exact List.forall_mem_cons.2 ⟨hn, fun m hm hseen => hns m hm (List.mem_cons_of_mem n hseen)⟩
      · rintro ⟨⟨hfresh, hnodup⟩, hseen⟩
        refine ⟨hnodup, fun m hm hmem => ?_⟩
        obtain rfl | hmem := List.mem_cons.1 hmem
        · exact hfresh hm
        · exact hseen m (List.mem_cons_of_mem n hm) hmem

theorem mem_of_firstRepeated? {seen names : List String} {n : String}
    (h : firstRepeated? seen names = some n) : n ∈ names := by
  induction names generalizing seen with
  | nil => cases h
  | cons m ns ih =>
    unfold firstRepeated? at h
    split at h
    · cases h
      exact List.mem_cons_self ..
    · exact List.mem_cons_of_mem m (ih h)

namespace Generator

variable {g : Generator} {c : Crate}

/-- The cache holds the artifact of a summary. -/
def holds (g : Generator) (s : Summary) : Bool := (g.cache.lookup s).isSome

/-- What the generator makes for a summary: what the cache holds, or a rendering. -/
def Makes (g : Generator) (x : Generated) : Prop :=
  g.cache.lookup x.summary = some x.artifact ∨
    g.cache.lookup x.summary = none ∧ x.Rendered g.extension

theorem Makes.eq_of_lookup {x : Generated} {a : Artifact} (h : g.Makes x)
    (ha : g.cache.lookup x.summary = some a) : x.artifact = a := by
  obtain h | ⟨hnone, -⟩ := h
  · exact Option.some.inj (h.symm.trans ha)
  · rw [hnone] at ha
    cases ha

/-- The names of the artifacts, those from the cache or the others. -/
def namesWhere (g : Generator) (held : Bool) (gs : List Generated) : List String :=
  (gs.filter fun x => g.holds x.summary == held).map (·.artifact.name)

/-- The progress from `p` to `p'` is that artifacts for the summaries were made, in order. -/
structure Advances (g : Generator) (p p' : Progress) (made : List Generated) : Prop where
  makes : ∀ x ∈ made, g.Makes x
  generated : p'.generated = p.generated ++ made
  emitted : p'.emitted = p.emitted ++ g.namesWhere false made
  reused : p'.reused = p.reused ++ g.namesWhere true made
  tally : ∀ k, p'.tally.get k = p.tally.get k +
    ((made.filter fun x => g.holds x.summary == false).map Generated.key).count k

namespace Advances

variable {p p' p'' : Progress} {xs ys : List Generated}

theorem refl (p : Progress) : g.Advances p p [] where
  makes := by simp
  generated := by simp
  emitted := by simp [namesWhere]
  reused := by simp [namesWhere]
  tally := by simp

theorem trans (h : g.Advances p p' xs) (h' : g.Advances p' p'' ys) : g.Advances p p'' (xs ++ ys) where
  makes := List.forall_mem_append.2 ⟨h.makes, h'.makes⟩
  generated := by rw [h'.generated, h.generated, List.append_assoc]
  emitted := by simp [h'.emitted, h.emitted, namesWhere]
  reused := by simp [h'.reused, h.reused, namesWhere]
  tally k := by
    rw [h'.tally, h.tally, List.filter_append, List.map_append, List.count_append]
    omega

end Advances

/-- The ways that generating for one summary can go: its artifact is in the cache, or else it is rendered, or it
has no rendering. -/
inductive Produces (g : Generator) (p : Progress) (s : Summary) : Except GenerationError Progress → Prop where
  | held {a : Artifact} (h : g.cache.lookup s = some a) : Produces g p s
      (.ok { p with generated := p.generated ++ [⟨s, a⟩], reused := p.reused ++ [a.name] })
  | rendered {code : DisplayCode} (new : g.cache.lookup s = none) (h : DisplayCode.ofSummary s = .ok code) :
      Produces g p s (.ok { p with
        tally := p.tally.increment s.key
        generated := p.generated ++
          [⟨s, ⟨s.artifactName g.extension, s.modulePath, artifactText (p.tally.get s.key + 1) code⟩⟩]
        emitted := p.emitted ++ [s.artifactName g.extension] })
  | failed {e : GenerationError} (new : g.cache.lookup s = none) (h : DisplayCode.ofSummary s = .error e) :
      Produces g p s (.error e)

theorem produces (g : Generator) (p : Progress) (s : Summary) : g.Produces p s (g.produce p s) := by
  unfold produce
  cases hlookup : g.cache.lookup s with
  | some a => exact .held hlookup
  | none =>
    dsimp only
    rw [emit_eq]
    cases hcode : DisplayCode.ofSummary s with
    | error e => exact .failed hlookup hcode
    | ok code => exact .rendered hlookup hcode

theorem produce_ok {p p' : Progress} {s : Summary} (h : g.produce p s = .ok p') :
    ∃ a, g.Advances p p' [⟨s, a⟩] := by
  have hproduces := g.produces p s
  rw [h] at hproduces
  cases hproduces with
  | @held a hlookup =>
    refine ⟨a, ⟨?_, rfl, ?_, ?_, ?_⟩⟩
    · exact List.forall_mem_singleton.2 (.inl hlookup)
    · simp [namesWhere, holds, hlookup]
    · simp [namesWhere, holds, hlookup]
    · simp [holds, hlookup]
  | @rendered code hlookup hcode =>
    refine ⟨_, ⟨?_, rfl, ?_, ?_, ?_⟩⟩
    · exact List.forall_mem_singleton.2 (.inr ⟨hlookup, _, code, hcode, rfl⟩)
    · simp [namesWhere, holds, hlookup]
    · simp [namesWhere, holds, hlookup]
    · intro k
      simp only [Tally.get_increment]
      simp [holds, hlookup, Generated.key, List.count_cons, List.count_nil]

/-- Generating for summaries one after the other makes an artifact for each. -/
theorem produceAll_ok {p p' : Progress} {ss : List Summary} (h : g.produceAll p ss = (p', none)) :
    ∃ made, made.map (·.summary) = ss ∧ g.Advances p p' made := by
  fun_induction produceAll g p ss with
  | case1 p =>
    cases h
    exact ⟨[], rfl, .refl _⟩
  | case2 p s ss p₁ hproduce ih =>
    obtain ⟨a, hfirst⟩ := produce_ok hproduce
    obtain ⟨made, hsummaries, hrest⟩ := ih h
    exact ⟨⟨s, a⟩ :: made, by rw [List.map_cons, hsummaries], hfirst.trans hrest⟩
  | case3 => cases h

/-- What a generator has made from the start on is for the summaries, one for each. -/
theorem summaries_of_produceAll {p : Progress} {ss : List Summary}
    (h : g.produceAll ⟨g.tally, [], [], []⟩ ss = (p, none)) :
    p.generated.map (·.summary) = ss ∧ ∀ x ∈ p.generated, g.Makes x := by
  obtain ⟨made, hsummaries, hadvances⟩ := produceAll_ok h
  obtain rfl : p.generated = made := hadvances.generated
  exact ⟨hsummaries, hadvances.makes⟩

/-- What a run over a crate did that gave a result and left an outcome: `marked` is the crate with
the marker's definition, and `p` what was generated. -/
structure RunSteps (g : Generator) (c marked : Crate) (p : Progress) (o : Outcome) (r : Run) : Prop where
  definition : g.marker.definition = .ok r.marker
  free : c.contains r.marker.name = false
  addMarker : c.addArtifact r.marker = .ok marked
  distinct : ((marked.summaries g.marker.path).map fun s => s.artifactName g.extension).Nodup
  produced : g.produceAll ⟨g.tally, [], [], []⟩ (marked.summaries g.marker.path) = (p, none)
  added : addAll marked (p.generated.map (·.artifact)) = (o.crate, none)
  generated : r.generated = p.generated
  emitted : r.emitted = p.emitted
  reused : r.reused = p.reused
  removed : r.removed = (g.cache.commit p.generated).1
  generator : o.generator = { g with tally := p.tally, cache := Cache.ofList p.generated }

/-- Artifacts that could be added have distinct names, and none that was taken. -/
theorem addAll_ok {c' : Crate} {as : List Artifact} (h : addAll c as = (c', none)) :
    (as.map (·.name)).Nodup ∧ ∀ a ∈ as, c.contains a.name = false := by
  fun_induction addAll c as with
  | case1 => simp
  | case2 c a as c₁ hadd ih =>
    obtain ⟨hnodup, hfree⟩ := ih h
    have hlater : ∀ b ∈ as, c.contains b.name = false ∧ a.name ≠ b.name := by
      intro b hb
      have hb := hfree b hb
      rw [Crate.contains_add hadd, Bool.or_eq_false_iff] at hb
      exact ⟨hb.1, by simpa using hb.2⟩
    rw [List.map_cons, List.nodup_cons]
    refine ⟨⟨fun hmem => ?_, hnodup⟩, ?_⟩
    · obtain ⟨b, hb, heq⟩ := List.mem_map.1 hmem
      exact (hlater b hb).2 heq.symm
    · exact List.forall_mem_cons.2 ⟨(Crate.add_ok hadd).1, fun b hb => (hlater b hb).1⟩
  | case3 => cases h

/-- Artifacts that could be added have texts that are source files. -/
theorem addAll_reads {c' : Crate} {as : List Artifact} (h : addAll c as = (c', none)) :
    ∀ a ∈ as, Source.File.read? a.text ≠ none := by
  fun_induction addAll c as with
  | case1 => simp
  | case2 c a as c₁ hadd ih =>
    obtain ⟨-, file, hread, -⟩ := Crate.add_ok hadd
    exact List.forall_mem_cons.2 ⟨by rw [hread]; exact Option.some_ne_none file, ih h⟩
  | case3 => cases h

/-- The artifacts of a run have distinct names, the marker's included. -/
theorem RunSteps.names {o : Outcome} {r : Run} {p : Progress} {marked : Crate}
    (h : g.RunSteps c marked p o r) :
    (r.marker.name :: r.generated.map (·.artifact.name)).Nodup := by
  obtain ⟨hnodup, hfree⟩ := addAll_ok h.added
  rw [← h.generated, List.map_map] at hnodup
  rw [← h.generated] at hfree
  refine List.nodup_cons.2 ⟨fun hmem => ?_, hnodup⟩
  obtain ⟨x, hx, heq⟩ := List.mem_map.1 hmem
  have hx := hfree x.artifact (List.mem_map_of_mem hx)
  rw [Crate.contains_add h.addMarker, heq] at hx
  simp at hx

/-- The ways that a run over a crate with the marker's definition can go, each with what it leaves. -/
inductive GoesMarked (g : Generator) (marker : Artifact) (c : Crate) : Outcome → Prop where
  | repeated {name : String} (h : firstRepeated? []
      ((c.summaries g.marker.path).map fun s => s.artifactName g.extension) = some name) :
      GoesMarked g marker c ⟨g, c, .error (.nameCollision name)⟩
  | stuck {p : Progress} {e : GenerationError}
      (distinct : ((c.summaries g.marker.path).map fun s => s.artifactName g.extension).Nodup)
      (h : g.produceAll ⟨g.tally, [], [], []⟩ (c.summaries g.marker.path) = (p, some e)) :
      GoesMarked g marker c ⟨{ g with tally := p.tally }, c, .error e⟩
  | refused {p : Progress} {c' : Crate} {e : GenerationError}
      (distinct : ((c.summaries g.marker.path).map fun s => s.artifactName g.extension).Nodup)
      (produced : g.produceAll ⟨g.tally, [], [], []⟩ (c.summaries g.marker.path) = (p, none))
      (h : addAll c (p.generated.map (·.artifact)) = (c', some e)) :
      GoesMarked g marker c ⟨{ g with tally := p.tally }, c', .error e⟩
  | done {p : Progress} {c' : Crate}
      (distinct : ((c.summaries g.marker.path).map fun s => s.artifactName g.extension).Nodup)
      (produced : g.produceAll ⟨g.tally, [], [], []⟩ (c.summaries g.marker.path) = (p, none))
      (h : addAll c (p.generated.map (·.artifact)) = (c', none)) :
      GoesMarked g marker c ⟨{ g with tally := p.tally, cache := Cache.ofList p.generated }, c',
        .ok ⟨marker, p.generated, p.emitted, p.reused, (g.cache.commit p.generated).1⟩⟩

theorem runMarked_goes (g : Generator) (marker : Artifact) (c : Crate) :
    g.GoesMarked marker c (g.runMarked marker c) := by
  unfold runMarked
  dsimp only
  cases hrepeated : firstRepeated? []
      ((c.summaries g.marker.path).map fun s => s.artifactName g.extension) with
  | some name => exact .repeated hrepeated
  | none =>
    obtain ⟨hdistinct, -⟩ := firstRepeated?_eq_none.1 hrepeated
    obtain ⟨p, failure, hproduced⟩ : ∃ p failure,
        g.produceAll ⟨g.tally, [], [], []⟩ (c.summaries g.marker.path) = (p, failure) := ⟨_, _, rfl⟩
    rw [hproduced]
    cases failure with
    | some e => exact .stuck hdistinct hproduced
    | none =>
      obtain ⟨c', failure, hadded⟩ : ∃ c' failure,
          addAll c (p.generated.map (·.artifact)) = (c', failure) := ⟨_, _, rfl⟩
      dsimp only
      rw [hadded]
      cases failure with
      | some e => exact .refused hdistinct hproduced hadded
      | none => exact .done hdistinct hproduced hadded

/-- The ways that a run can go, each with what it leaves. -/
inductive Goes (g : Generator) (c : Crate) : Outcome → Prop where
  | undefined {e : GenerationError} (h : g.marker.definition = .error e) : Goes g c ⟨g, c, .error e⟩
  | conflict {a : Artifact} (definition : g.marker.definition = .ok a)
      (h : c.contains a.name = true) : Goes g c ⟨g, c, .error (.markerConflict a.name)⟩
  | refused {a : Artifact} {e : GenerationError} (definition : g.marker.definition = .ok a)
      (free : c.contains a.name = false) (h : c.addArtifact a = .error e) : Goes g c ⟨g, c, .error e⟩
  | marked {a : Artifact} {marked : Crate} (definition : g.marker.definition = .ok a)
      (free : c.contains a.name = false) (h : c.addArtifact a = .ok marked) :
      Goes g c (g.runMarked a marked)

theorem run_goes (g : Generator) (c : Crate) : g.Goes c (g.run c) := by
  unfold run
  cases hdef : g.marker.definition with
  | error e => exact .undefined hdef
  | ok marker =>
    dsimp only
    cases hfree : c.contains marker.name with
    | true => exact .conflict hdef hfree
    | false =>
      cases hadd : c.addArtifact marker with
      | error e => exact .refused hdef hfree hadd
      | ok marked => exact .marked hdef hfree hadd

theorem runMarked_ok {marker : Artifact} {r : Run} (h : (g.runMarked marker c).result = .ok r)
    {c₀ : Crate} (hdef : g.marker.definition = .ok marker) (hfree : c₀.contains marker.name = false)
    (hadd : c₀.addArtifact marker = .ok c) :
    ∃ p, g.RunSteps c₀ c p (g.runMarked marker c) r := by
  have hgoes := g.runMarked_goes marker c
  generalize g.runMarked marker c = o at h hgoes ⊢
  cases hgoes with
  | repeated | stuck | refused => cases h
  | done hdistinct hproduced hadded =>
    cases h
    exact ⟨_, hdef, hfree, hadd, hdistinct, hproduced, hadded, rfl, rfl, rfl, rfl, rfl⟩

theorem run_ok {r : Run} (h : (g.run c).result = .ok r) :
    ∃ marked p, g.RunSteps c marked p (g.run c) r := by
  have hgoes := g.run_goes c
  generalize g.run c = o at h hgoes ⊢
  cases hgoes with
  | undefined | conflict | refused => cases h
  | marked hdef hfree hadd => exact ⟨_, runMarked_ok h hdef hfree hadd⟩

/-! ## Failures -/

/-- Where a run over a crate that holds the marker's definition fails, and how. -/
inductive FailsMarked (g : Generator) (c : Crate) : GenerationError → Prop where
  | repeated {name : String} (h : firstRepeated? []
      ((c.summaries g.marker.path).map fun s => s.artifactName g.extension) = some name) :
      FailsMarked g c (.nameCollision name)
  | produce {p : Progress} {e : GenerationError}
      (distinct : ((c.summaries g.marker.path).map fun s => s.artifactName g.extension).Nodup)
      (h : g.produceAll ⟨g.tally, [], [], []⟩ (c.summaries g.marker.path) = (p, some e)) :
      FailsMarked g c e
  | add {p : Progress} {c' : Crate} {e : GenerationError}
      (distinct : ((c.summaries g.marker.path).map fun s => s.artifactName g.extension).Nodup)
      (produced : g.produceAll ⟨g.tally, [], [], []⟩ (c.summaries g.marker.path) = (p, none))
      (h : addAll c (p.generated.map (·.artifact)) = (c', some e)) : FailsMarked g c e

/-- Where a run over a crate fails, and how. -/
inductive Fails (g : Generator) (c : Crate) : GenerationError → Prop where
  | definition {e : GenerationError} (h : g.marker.definition = .error e) : Fails g c e
  | conflict {a : Artifact} (definition : g.marker.definition = .ok a)
      (h : c.contains a.name = true) : Fails g c (.markerConflict a.name)
  | addMarker {a : Artifact} {e : GenerationError} (definition : g.marker.definition = .ok a)
      (free : c.contains a.name = false) (h : c.addArtifact a = .error e) : Fails g c e
  | marked {a : Artifact} {marked : Crate} {e : GenerationError}
      (definition : g.marker.definition = .ok a) (free : c.contains a.name = false)
      (addMarker : c.addArtifact a = .ok marked) (h : g.FailsMarked marked e) : Fails g c e

theorem runMarked_failed {marker : Artifact} {e : GenerationError}
    (h : (g.runMarked marker c).result = .error e) :
    g.FailsMarked c e ∧ ∃ tally, (g.runMarked marker c).generator = { g with tally } := by
  have hgoes := g.runMarked_goes marker c
  generalize g.runMarked marker c = o at h hgoes ⊢
  cases hgoes with
  | repeated hrepeated =>
    cases h
    exact ⟨.repeated hrepeated, _, rfl⟩
  | stuck hdistinct hproduced =>
    cases h
    exact ⟨.produce hdistinct hproduced, _, rfl⟩
  | refused hdistinct hproduced hadded =>
    cases h
    exact ⟨.add hdistinct hproduced hadded, _, rfl⟩
  | done => cases h

/-- What is known of a run that fails. -/
theorem run_failed {e : GenerationError} (h : (g.run c).result = .error e) :
    g.Fails c e ∧ ∃ tally, (g.run c).generator = { g with tally } := by
  have hgoes := g.run_goes c
  generalize g.run c = o at h hgoes ⊢
  cases hgoes with
  | undefined hdef =>
    cases h
    exact ⟨.definition hdef, _, rfl⟩
  | conflict hdef hthere =>
    cases h
    exact ⟨.conflict hdef hthere, _, rfl⟩
  | refused hdef hfree hadd =>
    cases h
    exact ⟨.addMarker hdef hfree hadd, _, rfl⟩
  | marked hdef hfree hadd =>
    obtain ⟨hfails, htally⟩ := runMarked_failed h
    exact ⟨.marked hdef hfree hadd hfails, htally⟩

theorem FailsMarked.result {e : GenerationError} (h : g.FailsMarked c e) (marker : Artifact) :
    (g.runMarked marker c).result = .error e := by
  have hnone : ∀ names : List String, names.Nodup → firstRepeated? [] names = none :=
    fun names hnames => firstRepeated?_eq_none.2 ⟨hnames, by simp⟩
  unfold runMarked
  cases h with
  | repeated h => simp only [h]
  | produce hdistinct h => simp only [hnone _ hdistinct, h]
  | add hdistinct hproduced h => simp only [hnone _ hdistinct, hproduced, h]

theorem run_error_iff {e : GenerationError} : (g.run c).result = .error e ↔ g.Fails c e := by
  refine ⟨fun h => (run_failed h).1, fun h => ?_⟩
  unfold run
  cases h with
  | definition h => simp only [h]
  | conflict hdef h => simp only [hdef, h, if_true]
  | addMarker hdef hfree h => simp only [hdef, hfree, h, if_false, Bool.false_eq_true]
  | marked hdef hfree hadd h =>
    simp only [hdef, hfree, hadd, if_false, Bool.false_eq_true]
    exact h.result _

/-- A run that fails changes nothing of the generator but its tally. -/
theorem run_error {e : GenerationError} (h : (g.run c).result = .error e) :
    ∃ tally, (g.run c).generator = { g with tally } := (run_failed h).2

/-- Where a crate refuses an artifact, its name is taken, or its text is no source file. -/
theorem addAll_failed {c' : Crate} {as : List Artifact} {e : GenerationError}
    (h : addAll c as = (c', some e)) : ∃ a ∈ as,
      (e = .nameCollision a.name ∧ (c.contains a.name = true ∨ ¬ (as.map (·.name)).Nodup)) ∨
        (e = .unparsable a.name ∧ Source.File.read? a.text = none) := by
  fun_induction addAll c as with
  | case1 => cases h
  | case2 c a as c₁ hadd ih =>
    obtain ⟨b, hb, hcollision | hunreadable⟩ := ih h
    · refine ⟨b, List.mem_cons_of_mem a hb, .inl ⟨hcollision.1, ?_⟩⟩
      rw [Crate.contains_add hadd, Bool.or_eq_true, beq_iff_eq] at hcollision
      rw [List.map_cons, List.nodup_cons]
      rcases hcollision.2 with (htaken | heq) | hrepeated
      · exact .inl htaken
      · exact .inr fun hnodup => hnodup.1 (heq ▸ List.mem_map_of_mem hb)
      · exact .inr fun hnodup => hrepeated hnodup.2
    · exact ⟨b, List.mem_cons_of_mem a hb, .inr hunreadable⟩
  | case3 c a as e' hadd =>
    cases h
    refine ⟨a, List.mem_cons_self .., ?_⟩
    rcases Crate.add_failed hadd with ⟨rfl, htaken⟩ | ⟨rfl, hread⟩
    · exact .inl ⟨rfl, .inl htaken⟩
    · exact .inr ⟨rfl, hread⟩

/-- A crate refuses an artifact of a fresh name for its text only. -/
theorem addAll_unparsable {as : List Artifact} {c' : Crate} {e : GenerationError}
    (hnames : (as.map (·.name)).Nodup) (hfree : ∀ a ∈ as, c.contains a.name = false)
    (h : addAll c as = (c', some e)) :
    ∃ a ∈ as, e = .unparsable a.name ∧ Source.File.read? a.text = none := by
  obtain ⟨a, ha, ⟨-, htaken | hrepeated⟩ | hunreadable⟩ := addAll_failed h
  · rw [hfree a ha] at htaken
    cases htaken
  · exact absurd hnames hrepeated
  · exact ⟨a, ha, hunreadable⟩

end Generator

end DisplayGen
