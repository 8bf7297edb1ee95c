import DisplayGen.Proofs.Emission.FormatString
import DisplayGen.Proofs.Emission.Reread
import DisplayGen.Proofs.Emission.Writable
import DisplayGen.Proofs.Text.Split

/-!
# What a template writes

The format string of a template is built by joining, and taken apart by the grammar of format strings. Labels
are words, and no character of a word stands for anything else in a format string, so each label has its one
place, and labels can be told from each other.

* `Template.read?_formatString`, `Template.fill?_pieces`: the pieces of a format string, and what they write.
* `Template.formatString_eq_iff`: other labels make another format string.
* `Template.ofSummary_writes`: what the code for a summary writes.
-/

namespace DisplayGen

open Source FormatString

/-- Writing an identifier raw or not does not change its name. -/
theorem Source.Ident.IsNamed.name_eq {i j : Ident} (h : i.IsNamed j.written) : i.name = j.name := by
  have hplain : i.IsNamed j.name := by
    unfold IsNamed
    rw [j.unraw_name, ← j.unraw_written]
    exact h
  exact ((isNamed_word j.isWord_name).1 hplain).1

namespace Template

/-! ## Pieces of format strings -/

/-- The pieces of a label with its place. -/
def slotPieces (label : String) : List Piece := label.toList.map .char ++ [.char ':', .place .plain]

/-- The pieces of the format string with the given labels. -/
def pieces : List String → List Piece
  | [] => []
  | [label] => slotPieces label
  | label :: next :: labels => slotPieces label ++ .char ';' :: .char ' ' :: pieces (next :: labels)

theorem toList_slot (label : String) : (slot label).toList = label.toList ++ [':', '{', '}'] :=
  String.toList_append

/-- What stands behind the first label with its place: the others, behind a separator. -/
def behind : List String → List Char
  | [] => []
  | next :: labels => ';' :: ' ' :: (formatString ⟨next :: labels⟩).toList

theorem toList_formatString (label : String) (labels : List String) :
    (formatString ⟨label :: labels⟩).toList = (slot label).toList ++ behind labels := by
  cases labels with
  | nil => exact (List.append_nil _).symm
  | cons next labels =>
    have hsep : "; ".toList = [';', ' '] := rfl
    unfold formatString
    rw [List.map_cons, List.map_cons, Text.joinWith, String.toList_append, String.toList_append, hsep,
      List.append_assoc]
    rfl

theorem reads_slot {label : String} (h : Text.isWord label.toList = true) {cs : List Char}
    {ps : List Piece} (hcs : Reads cs ps) : Reads ((slot label).toList ++ cs) (slotPieces label ++ ps) := by
  unfold slotPieces
  rw [toList_slot, List.append_assoc, List.append_assoc]
  exact .text (Text.not_mem_of_isWord h) (Text.not_mem_of_isWord h)
    (.char (by decide) (by decide) (.place_plain hcs))

theorem reads_formatString {labels : List String} (h : ∀ l ∈ labels, Text.isWord l.toList = true) :
    Reads (formatString ⟨labels⟩).toList (pieces labels) := by
  induction labels with
  | nil => exact .nil
  | cons label labels ih =>
    obtain ⟨hlabel, hlabels⟩ := List.forall_mem_cons.1 h
    cases labels with
    | nil =>
      have hslot := reads_slot hlabel .nil
      rwa [List.append_nil, List.append_nil] at hslot
    | cons next labels =>
      rw [toList_formatString]
      exact reads_slot hlabel (.char (by decide) (by decide) (.char (by decide) (by decide) (ih hlabels)))

theorem read?_formatString {t : Template} (h : ∀ l ∈ t.labels, Text.isWord l.toList = true) :
    read? t.formatString = some (pieces t.labels) := read?_of_reads (reads_formatString h)

theorem marks_slotPieces (label : String) (ps : List Piece) :
    marks (slotPieces label ++ ps) = .place .plain :: marks ps := by
  unfold slotPieces
  rw [List.append_assoc, marks_text]
  rfl

/-- There is one place for each label, and nothing else but text. -/
theorem marks_pieces (labels : List String) :
    marks (pieces labels) = List.replicate labels.length (.place .plain) := by
  induction labels with
  | nil => rfl
  | cons label labels ih =>
    cases labels with
    | nil => exact (congrArg marks (List.append_nil _)).symm.trans (marks_slotPieces label [])
    | cons next labels =>
      rw [pieces, marks_slotPieces]
      exact congrArg (Piece.place .plain :: ·) ih

theorem fill?_slotPieces (label value : String) (ps : List Piece) (values : List String) :
    fill? (slotPieces label ++ ps) (value :: values) =
      (fill? ps values).map (label ++ ":" ++ value ++ ·) := by
  have hcolon : String.singleton ':' = ":" := rfl
  unfold slotPieces
  rw [List.append_assoc, fill?_text, List.cons_append, List.cons_append, List.nil_append, fill?,
    fill?_place_plain, Option.map_map, Option.map_map, hcolon, String.ofList_toList]
  congr 1
  exact funext fun s => by simp only [Function.comp, String.append_assoc]

/-- Each label has its value behind it. -/
theorem fill?_pieces {labels values : List String} (h : values.length = labels.length) :
    fill? (pieces labels) values =
      some (Text.joinWith "; " (List.zipWith (fun l v => l ++ ":" ++ v) labels values)) := by
  induction labels generalizing values with
  | nil =>
    rw [List.length_eq_zero_iff.1 h]
    rfl
  | cons label labels ih =>
    obtain ⟨value, values, rfl⟩ := List.exists_cons_of_length_eq_add_one h
    have hvalues : values.length = labels.length := Nat.succ.inj h
    cases labels with
    | nil =>
      rw [List.length_eq_zero_iff.1 hvalues, pieces, ← List.append_nil (slotPieces label),
        fill?_slotPieces, fill?]
      exact congrArg some String.append_empty
    | cons next labels =>
      obtain ⟨value', values, rfl⟩ := List.exists_cons_of_length_eq_add_one hvalues
      have hsep : ∀ s, String.singleton ';' ++ (String.singleton ' ' ++ s) = "; " ++ s :=
        fun s => String.toList_injective (by simp)
      rw [pieces, fill?_slotPieces, fill?, fill?, ih hvalues]
      simp only [Option.map_some, hsep, List.zipWith_cons_cons, Text.joinWith, String.append_assoc]

/-! ## Labels from format strings -/

theorem formatString_ne_nil (label : String) (labels : List String) :
    (formatString ⟨label :: labels⟩).toList ≠ [] := by
  rw [toList_formatString, toList_slot]
  simp

/-- A label ends at the first colon, and behind its place the other labels begin. -/
theorem labels_eq_of_formatString {labels labels' : List String}
    (h : ∀ l ∈ labels, Text.isWord l.toList = true) (h' : ∀ l ∈ labels', Text.isWord l.toList = true)
    (heq : (formatString ⟨labels⟩).toList = (formatString ⟨labels'⟩).toList) : labels = labels' := by
  induction labels generalizing labels' with
  | nil =>
    cases labels' with
    | nil => rfl
    | cons label' labels' => exact absurd heq.symm (formatString_ne_nil label' labels')
  | cons label labels ih =>
    cases labels' with
    | nil => exact absurd heq (formatString_ne_nil label labels)
    | cons label' labels' =>
      obtain ⟨hlabel, hlabels⟩ := List.forall_mem_cons.1 h
      obtain ⟨hlabel', hlabels'⟩ := List.forall_mem_cons.1 h'
      rw [toList_formatString, toList_formatString, toList_slot, toList_slot, List.append_assoc,
        List.append_assoc] at heq
      obtain rfl : label = label' := String.toList_injective
        (Text.eq_of_append_cons (Text.not_mem_of_isWord hlabel) (Text.not_mem_of_isWord hlabel') heq)
      have hbehind : behind labels = behind labels' := List.append_cancel_left (List.append_cancel_left heq)
      cases labels with
      | nil =>
        cases labels' with
        | nil => rfl
        | cons next labels' => cases hbehind
      | cons next labels =>
        cases labels' with
        | nil => cases hbehind
        | cons next' labels' =>
          have hslots := (List.cons.inj (List.cons.inj hbehind).2).2
          exact congrArg (label :: ·) (ih hlabels hlabels' hslots)

/-- Labels can be told from the format string. -/
theorem formatString_eq_iff {t t' : Template} (h : ∀ l ∈ t.labels, Text.isWord l.toList = true)
    (h' : ∀ l ∈ t'.labels, Text.isWord l.toList = true) :
    t.formatString = t'.formatString ↔ t.labels = t'.labels := by
  refine ⟨fun heq => labels_eq_of_formatString h h' (congrArg String.toList heq), fun heq => ?_⟩
  unfold formatString
  rw [heq]

/-! ## What the code for a summary writes -/

theorem labels_ofSummary {s : Summary} {is : List Ident} (h : s.memberNames = is.map Ident.written) :
    (ofSummary s).labels = is.map Ident.name := by
  unfold ofSummary
  rw [h, List.map_map]
  exact List.map_congr_left fun i _ => i.unraw_written

theorem isWord_labels {s : Summary} {is : List Ident} (h : s.memberNames = is.map Ident.written) :
    ∀ l ∈ (ofSummary s).labels, Text.isWord l.toList = true := by
  rw [labels_ofSummary h]
  exact List.forall_mem_map.2 fun i _ => i.isWord_name

/-- The code for a summary takes the fields in the order of the labels. -/
theorem fields_ofSummary {s : Summary} {is : List Ident} (h : s.memberNames = is.map Ident.written)
    {code : DisplayCode} (hcode : DisplayCode.ofSummary s = .ok code) :
    code.format = (ofSummary s).formatString ∧ code.fields.map Ident.name = is.map Ident.name := by
  obtain ⟨-, -, hformat, hfields⟩ := DisplayCode.ofSummary_ok hcode
  rw [h] at hfields
  have hnamed : List.Forall₂ (fun i j : Ident => i.IsNamed j.written) code.fields is :=
    List.forall₂_map_right_iff.1 hfields
  exact ⟨hformat, map_eq_of_forall₂ (fun i j hi => hi.name_eq) hnamed⟩

/-- Where the public fields have identifiers for names, raw or not, the format string has one place `{}` for
each of them and no other place or doubled brace. With values for the fields it stands for `label:value` of
each field in order, with `; ` between them, and the label is the name without `r#`. Other labels make another
format string. The code takes the fields in the same order. -/
theorem ofSummary_writes {s : Summary} {is : List Ident} (h : s.memberNames = is.map Ident.written) :
    (∃ ps, read? (ofSummary s).formatString = some ps ∧
      marks ps = List.replicate is.length (.place .plain) ∧
      ∀ values : List String, values.length = is.length → fill? ps values =
        some (Text.joinWith "; " (List.zipWith (fun i v => i.name ++ ":" ++ v) is values))) ∧
    (is = [] → (ofSummary s).formatString = "") ∧
    (∀ (t : Summary) (js : List Ident), t.memberNames = js.map Ident.written →
      ((ofSummary s).formatString = (ofSummary t).formatString ↔
        is.map Ident.name = js.map Ident.name)) ∧
    ∀ code, DisplayCode.ofSummary s = .ok code →
      code.format = (ofSummary s).formatString ∧ code.fields.map Ident.name = is.map Ident.name := by
  have hlabels := labels_ofSummary h
  refine ⟨⟨pieces (ofSummary s).labels, read?_formatString (isWord_labels h), ?_, ?_⟩, ?_, ?_,
    fun code => fields_ofSummary h⟩
  · rw [marks_pieces, hlabels, List.length_map]
  · intro values hvalues
    rw [hlabels, fill?_pieces (by rwa [List.length_map]), List.zipWith_map_left]
  · rintro rfl
    unfold formatString
    rw [hlabels]
    rfl
  · intro t js ht
    rw [formatString_eq_iff (isWord_labels h) (isWord_labels ht), hlabels, labels_ofSummary ht]

/-- A field with a raw name, and a value that looks like a place. -/
theorem ofSummary_writes_raw : ∃ is : List Ident, ["FirstName", "r#type"] = is.map Ident.written ∧
    ∃ ps, read? (ofSummary ⟨"app", "Token", ["FirstName", "r#type"]⟩).formatString = some ps ∧
      marks ps = [.place .plain, .place .plain] ∧
      fill? ps ["Ada", "\x7b\x7d"] = some "FirstName:Ada; type:\x7b\x7d" := by
  have hident : ["FirstName", "r#type"] =
      [Ident.plain "FirstName", ⟨true, "type", by decide⟩].map Ident.written := rfl
  obtain ⟨⟨ps, hread, hmarks, hfill⟩, -⟩ :=
    ofSummary_writes (s := ⟨"app", "Token", ["FirstName", "r#type"]⟩) hident
  exact ⟨_, hident, ps, hread, hmarks, hfill ["Ada", "\x7b\x7d"] rfl⟩

end Template

end DisplayGen
