import DisplayGen.Generator.Recorded
import DisplayGen.Proofs.Format.Json
import Mathlib.Data.List.Basic
import Mathlib.Data.String.Basic

/-!
# Manifests are read back

* `read?_toText`: the text of a manifest is read as the manifest.
* `entries_sorted_perm`: sorting the entries of a manifest changes their order only.
* `entries_sorted_pairwise`: entries with distinct names are then in the order of their names, so the
  order in which they were given does not matter (`sorted_congr`).
-/

namespace DisplayGen

open Format

namespace Format.JsonValue

theorem textual_texts (ss : List String) : AllTextual (ss.map ofText) := by
  induction ss with
  | nil => trivial
  | cons s ss ih => exact ⟨trivial, ih⟩

theorem texts?_texts (ss : List String) : (array (ss.map ofText)).texts? = some ss := by
  unfold texts?
  induction ss with
  | nil => rfl
  | cons s ss ih => simp_all [ofText, text?]

end Format.JsonValue

namespace ManifestEntry

theorem textual_toJson (e : ManifestEntry) : e.toJson.Textual := by
  refine ⟨rfl, trivial, rfl, trivial, rfl, trivial, rfl, ?_, trivial⟩
  exact JsonValue.textual_texts e.summary.memberNames

theorem ofJson?_toJson (e : ManifestEntry) : ofJson? e.toJson = some e := by
  obtain ⟨name, namespaceName, typeName, memberNames⟩ := e
  have hfields : ofJson? (toJson ⟨name, namespaceName, typeName, memberNames⟩) =
      ofFields? (.ofText name) (.ofText namespaceName) (.ofText typeName)
        (.array (memberNames.map .ofText)) := rfl
  rw [hfields, ofFields?, JsonValue.texts?_texts]
  rfl

theorem ofJson?_toJsons (es : List ManifestEntry) : (es.map toJson).mapM ofJson? = some es := by
  induction es with
  | nil => rfl
  | cons e es ih =>
    rw [List.map_cons, List.mapM_cons, ofJson?_toJson, ih]
    rfl

end ManifestEntry

namespace Manifest

theorem textual_toJson (m : Manifest) : m.toJson.Textual := by
  have hmarker : (markerToJson m.markerArtifact).Textual := by
    cases m.markerArtifact with
    | none => trivial
    | some name => trivial
  have hentries : JsonValue.AllTextual (m.entries.map ManifestEntry.toJson) := by
    induction m.entries with
    | nil => trivial
    | cons e es ih => exact ⟨e.textual_toJson, ih⟩
  exact ⟨rfl, trivial, rfl, hmarker, rfl, hentries, trivial⟩

theorem ofJson?_toJson (m : Manifest) : ofJson? m.toJson = some m := by
  obtain ⟨crateName, marker, entries⟩ := m
  have hfields : ofJson? (toJson ⟨crateName, marker, entries⟩) =
      ofFields? (.ofText crateName) (markerToJson marker)
        (.array (entries.map ManifestEntry.toJson)) := rfl
  have hmarker : markerOfJson? (markerToJson marker) = some marker := by
    cases marker with
    | none => rfl
    | some name => rfl
  rw [hfields, ofFields?, hmarker, entriesOfJson?, ManifestEntry.ofJson?_toJsons]
  rfl

/-- The text of a manifest is read as the manifest. -/
theorem read?_toText (m : Manifest) : read? m.toText = some m := by
  unfold read? toText
  rw [JsonValue.read?_pretty m.textual_toJson]
  exact m.ofJson?_toJson

theorem entries_sorted_perm (m : Manifest) : m.sorted.entries.Perm m.entries :=
  List.mergeSort_perm m.entries _

variable {m m' : Manifest}

/-- Entries with distinct names are in the order of their names. -/
theorem entries_sorted_pairwise (hnames : (m.entries.map (·.artifactName)).Nodup) :
    m.sorted.entries.Pairwise fun e e' => e.artifactName < e'.artifactName := by
  have hle : m.sorted.entries.Pairwise fun e e' => decide (e.artifactName ≤ e'.artifactName) = true := by
    refine List.pairwise_mergeSort (fun e₁ e₂ e₃ h h' => ?_) (fun e e' => ?_) m.entries
    · exact decide_eq_true (le_trans (of_decide_eq_true h) (of_decide_eq_true h'))
    · rw [Bool.or_eq_true, decide_eq_true_iff, decide_eq_true_iff]
      exact le_total _ _
  have hdistinct := ((m.entries_sorted_perm.map (·.artifactName)).nodup_iff).2 hnames
  unfold List.Nodup at hdistinct
  rw [List.pairwise_map] at hdistinct
  exact (hle.and hdistinct).imp fun h => lt_of_le_of_ne (of_decide_eq_true h.1) h.2

/-- The order in which entries with distinct names are given does not matter. -/
theorem sorted_congr (hcrate : m.crateName = m'.crateName)
    (hmarker : m.markerArtifact = m'.markerArtifact) (hentries : m.entries.Perm m'.entries)
    (hnames : (m.entries.map (·.artifactName)).Nodup) : m.sorted = m'.sorted := by
  have hnames' := ((hentries.map (·.artifactName)).nodup_iff).1 hnames
  have hperm := m.entries_sorted_perm.trans (hentries.trans m'.entries_sorted_perm.symm)
  have heq : m.sorted.entries = m'.sorted.entries :=
    hperm.eq_of_pairwise (fun e e' _ _ h h' => absurd h' (lt_asymm h)) (entries_sorted_pairwise hnames)
      (entries_sorted_pairwise hnames')
  unfold sorted at heq ⊢
  dsimp only at heq
  rw [heq, hcrate, hmarker]

end Manifest

end DisplayGen
