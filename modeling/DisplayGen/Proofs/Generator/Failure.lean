import DisplayGen.Proofs.Emission.Reread
import DisplayGen.Proofs.Emission.Writable
import DisplayGen.Proofs.Extraction.Names
import DisplayGen.Proofs.Extraction.Origin
import DisplayGen.Proofs.Generator.Transparent

/-!
# Why a run fails

A generator that was not seeded, with a marker whose path is made of plain words, can fail over a crate in
three ways only: a file has the name of the marker's, two types have the same key or one has the name of a
file, or a marked struct has a public field that is written `_`.

* `Crate.Built.writable`: which of the names in a crate's summaries can be written.
* `Generator.run_fails_only`: the three ways, and when it is the last of them.
-/

namespace DisplayGen

open Source

/-- The name of the type can be written, and those of its fields but for `_`. -/
structure Summary.Writable (s : Summary) : Prop where
  type : ∃ i, identFor s.typeName = .ok i
  members : ∀ n ∈ s.memberNames, n ≠ "_" → ∃ i, identFor n = .ok i

/-- The summaries of a crate have names that can be written. -/
theorem Crate.Built.writable {c : Crate} (h : c.Built) {marker : String} {s : Summary}
    (hs : s ∈ c.summaries marker) : s.Writable := by
  obtain ⟨-, -, d, hd, -, rfl⟩ := mem_summaries h hs
  have hnamed := h.isNamed hd
  refine ⟨identFor_name hnamed.name, fun n hn hwild => ?_⟩
  have hn : n ∈ d.publicFields := hn
  unfold DeclaredStruct.publicFields at hn
  split at hn
  · rename_i fs hfields
    obtain ⟨f, hf, rfl⟩ := List.mem_map.1 hn
    have hname := hnamed.fields fs hfields f (List.mem_filter.1 hf).1
    rcases Bool.or_eq_true_iff.1 hname with hname | hword
    · exact identFor_written hname
    · obtain ⟨hraw, heq⟩ := Bool.and_eq_true_iff.1 hword
      refine absurd ?_ hwild
      unfold Ident.written
      rw [if_neg (by simpa using hraw)]
      exact eq_of_beq heq
  · cases hn
  · cases hn

namespace Generator

variable {g : Generator} {last : List Generated} {c : Crate}

/-- Generating for summaries stops exactly at a field that is written `_`. -/
theorem Consistent.produceAll_cases (h : g.Consistent last) {ss : List Summary}
    (hss : ∀ s ∈ ss, s.Writable) (p : Progress) :
    ((g.produceAll p ss).2 = none ∧ ∀ s ∈ ss, "_" ∉ s.memberNames) ∨
      ((g.produceAll p ss).2 = some (.invalidIdentifier "_") ∧ ∃ s ∈ ss, "_" ∈ s.memberNames) := by
  induction ss generalizing p with
  | nil => exact .inl ⟨rfl, by simp⟩
  | cons s ss ih =>
    obtain ⟨hs, hss⟩ := List.forall_mem_cons.1 hss
    unfold produceAll
    rcases DisplayCode.ofSummary_cases hs.type hs.members with ⟨⟨code, hcode⟩, hnone⟩ | ⟨hfail, hwild⟩
    · obtain ⟨count, p', hp', -⟩ := h.produce_rendered p hcode
      rw [hp']
      rcases ih hss p' with ⟨hok, hall⟩ | ⟨hfail, t, ht, hwild⟩
      · exact .inl ⟨hok, List.forall_mem_cons.2 ⟨hnone, hall⟩⟩
      · exact .inr ⟨hfail, t, List.mem_cons_of_mem s ht, hwild⟩
    · rw [h.produce_error p hfail]
      exact .inr ⟨rfl, s, List.mem_cons_self .., hwild⟩

/-- A crate refuses a rendering for its name only. -/
theorem Consistent.addAll_failed (h : g.Consistent last) {ss : List Summary} {p : Progress}
    (hp : g.produceAll ⟨g.tally, [], [], []⟩ ss = (p, none)) {c' : Crate} {e : GenerationError}
    (hadd : addAll c (p.generated.map (·.artifact)) = (c', some e)) : ∃ n, e = .nameCollision n := by
  obtain ⟨a, ha, ⟨he, -⟩ | ⟨-, hunreadable⟩⟩ := Generator.addAll_failed hadd
  · exact ⟨a.name, he⟩
  · obtain ⟨x, hx, rfl⟩ := List.mem_map.1 ha
    exact absurd hunreadable (h.produceAll_rendered hp x hx).reads

theorem Consistent.failsMarked (h : g.Consistent last) (hc : c.Built) {e : GenerationError}
    (hfails : g.FailsMarked c e) : (∃ n, e = .nameCollision n) ∨ e = .invalidIdentifier "_" := by
  cases hfails with
  | repeated => exact .inl ⟨_, rfl⟩
  | produce _ hp =>
    rcases h.produceAll_cases (fun s hs => hc.writable hs) ⟨g.tally, [], [], []⟩ with ⟨hok, -⟩ | ⟨hfail, -⟩
    · rw [hp] at hok
      cases hok
    · rw [hp] at hfail
      exact .inr (Option.some.inj hfail)
  | add _ hp hadd => exact .inl (h.addAll_failed hp hadd)

/-- With distinct names, summaries are generated for unless a field is written `_`. -/
theorem Consistent.failsMarked_wild (h : g.Consistent last) (hc : c.Built) :
    g.FailsMarked c (.invalidIdentifier "_") ↔
      ((c.summaries g.marker.path).map fun s => s.artifactName g.extension).Nodup ∧
        ∃ s ∈ c.summaries g.marker.path, "_" ∈ s.memberNames := by
  have hwritable : ∀ s ∈ c.summaries g.marker.path, s.Writable := fun s hs => hc.writable hs
  have hcases := h.produceAll_cases hwritable ⟨g.tally, [], [], []⟩
  constructor
  · intro hfails
    cases hfails with
    | produce hdistinct hp =>
      rw [hp] at hcases
      exact ⟨hdistinct, (hcases.resolve_left fun hok => nomatch hok.1).2⟩
    | add _ hp hadd => exact nomatch h.addAll_failed hp hadd
  · rintro ⟨hdistinct, s, hs, hwild⟩
    obtain ⟨hfail, -⟩ := hcases.resolve_left fun hok => hok.2 s hs hwild
    exact .produce hdistinct (Prod.ext rfl hfail)

variable {path extension : String} {g₀ : Generator}

/-- After any history, a run over a crate that can be built fails only for a file that has the name of the
marker's, for two files of one name, or for the name `_`. The last is the case exactly if the marker can be
added, and its structs have distinct names and among them a public field that is written `_`. -/
theorem run_fails_only (hnew : create path extension = .ok g₀)
    (hwords : ∀ s ∈ g₀.marker.module ++ [g₀.marker.name], Text.isWord s.toList = true)
    (hreach : Reaches g₀ g last) (hc : c.Built) :
    (∀ e, (g.run c).result = .error e → e = .markerConflict g₀.marker.artifactName ∨
      (∃ n, e = .nameCollision n) ∨ e = .invalidIdentifier "_") ∧
    ((g.run c).result = .error (.invalidIdentifier "_") ↔ ∃ a marked,
      g₀.marker.definition = .ok a ∧ c.addArtifact a = .ok marked ∧
        ((marked.markedSummaries path).map fun s => s.artifactName extension).Nodup ∧
          ∃ s ∈ marked.markedSummaries path, "_" ∈ s.memberNames) := by
  obtain ⟨hparse, hextension⟩ := create_ok hnew
  have hconsistent := hreach.consistent (consistent_create hnew)
  have hpath : g.marker.path = path := by rw [hreach.marker, Marker.parse_path hparse]
  have hlast : g₀.marker.name ∈ g₀.marker.module ++ [g₀.marker.name] :=
    List.mem_append_right _ (List.mem_singleton_self _)
  obtain ⟨i, hi⟩ : ∃ i : Ident, i.written = g₀.marker.name :=
    ⟨.plain _ (by simp [isSpelling, hwords _ hlast]), rfl⟩
  have hname := (Marker.isName_of_parse hparse hlast hi).2
  obtain ⟨a₀, ha₀⟩ := (Marker.definition_ok_iff hparse).2 ⟨i, hi⟩
  have hadded : ∀ a, g.marker.definition = .ok a → c.contains a.name = false →
      c.addArtifact a = .ok (g₀.marker.definedIn i c) := fun a ha hfree =>
    Marker.addArtifact_definition hi hname (hreach.marker ▸ ha) hfree
  simp only [run_error_iff]
  constructor
  · intro e hfails
    cases hfails with
    | definition h =>
      rw [hreach.marker, ha₀] at h
      cases h
    | conflict h _ =>
      rw [Marker.definition_ok h, hreach.marker]
      exact .inl rfl
    | addMarker h hfree hrefused =>
      rw [hadded _ h hfree] at hrefused
      cases hrefused
    | marked h hfree hadd hfails => exact .inr (hconsistent.failsMarked (hc.addArtifact hadd) hfails)
  · have hwild : ∀ a marked, c.addArtifact a = .ok marked →
        (g.FailsMarked marked (.invalidIdentifier "_") ↔
          ((marked.markedSummaries path).map fun s => s.artifactName extension).Nodup ∧
            ∃ s ∈ marked.markedSummaries path, "_" ∈ s.memberNames) := by
      intro a marked hadd
      have hbuilt := hc.addArtifact hadd
      rw [hconsistent.failsMarked_wild hbuilt, hpath, hreach.extension, hextension,
        Crate.summaries_eq_filterMap hbuilt, ← Crate.markedSummaries_eq_filterMap]
    constructor
    · intro hfails
      cases hfails with
      | definition h =>
        rw [hreach.marker, ha₀] at h
        cases h
      | addMarker h hfree hrefused =>
        rw [hadded _ h hfree] at hrefused
        cases hrefused
      | marked h hfree hadd hfails => exact ⟨_, _, hreach.marker ▸ h, hadd, (hwild _ _ hadd).1 hfails⟩
    · rintro ⟨a, marked, ha, hadd, hcondition⟩
      exact .marked (hreach.marker.symm ▸ ha) (Crate.add_ok hadd).1 hadd ((hwild _ _ hadd).2 hcondition)

/-- The first run over a crate with reserved words in all names, each written raw. -/
theorem run_fails_only_raw : ∃ (g₀ : Generator) (c : Crate), create "crate::M" "rs" = .ok g₀ ∧
    (∀ s ∈ g₀.marker.module ++ [g₀.marker.name], Text.isWord s.toList = true) ∧ c.Built ∧
    ((⟨"demo", []⟩ : Crate).add "lib.rs" []
      "#[M]pub struct r#type\x7bpub r#fn:u8,_:u8\x7d").toOption = some c ∧
    ((g₀.run c).result = .error (.invalidIdentifier "_") ↔ ∃ a marked,
      g₀.marker.definition = .ok a ∧ c.addArtifact a = .ok marked ∧
        ((marked.markedSummaries "crate::M").map fun s => s.artifactName "rs").Nodup ∧
          ∃ s ∈ marked.markedSummaries "crate::M", "_" ∈ s.memberNames) := by
  have hread : ((⟨"demo", []⟩ : Crate).add "lib.rs" []
      "#[M]pub struct r#type\x7bpub r#fn:u8,_:u8\x7d").toOption.isSome := by decide +kernel
  obtain ⟨c, hadd⟩ := Option.isSome_iff_exists.1 hread
  have hcreate : Crate.create "demo" = .ok ⟨"demo", []⟩ := rfl
  have hbuilt : c.Built := .add (.create hcreate) (toOption_eq_some hadd)
  have hwords : ∀ s ∈ ["M"], Text.isWord s.toList = true := by decide +kernel
  exact ⟨_, c, create_root, hwords, hbuilt, hadd, (run_fails_only create_root hwords .start hbuilt).2⟩

/-- A run over a crate with a marked struct whose public field is written `_`. -/
theorem run_wild : ∃ (g₀ : Generator) (c : Crate), create "crate::M" "rs" = .ok g₀ ∧
    (∀ s ∈ g₀.marker.module ++ [g₀.marker.name], Text.isWord s.toList = true) ∧ c.Built ∧
    ((⟨"demo", []⟩ : Crate).add "lib.rs" [] "#[M]pub struct A{pub _:u8}").toOption = some c ∧
    (g₀.run c).result = .error (.invalidIdentifier "_") := by
  have hrun : ((⟨"demo", []⟩ : Crate).add "lib.rs" [] "#[M]pub struct A{pub _:u8}").toOption.map
      (fun c => ((⟨⟨"crate::M", [], "M"⟩, "rs", .empty, .empty⟩ : Generator).run c).result) =
        some (.error (.invalidIdentifier "_")) := by decide +kernel
  obtain ⟨c, hadd, hfails⟩ := Option.map_eq_some_iff.1 hrun
  have hcreate : Crate.create "demo" = .ok ⟨"demo", []⟩ := rfl
  have hbuilt : c.Built := .add (.create hcreate) (toOption_eq_some hadd)
  exact ⟨_, c, create_root, by decide +kernel, hbuilt, hadd, hfails⟩

end Generator

end DisplayGen
