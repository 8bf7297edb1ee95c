import DisplayGen.Proofs.Emission.Names

/-!
# Names that can be written

Generated code can write every name that source text can hold, raw or not, with one exception: a field
may be written `_`, and `_` is no identifier.

* `identFor_written`, `identFor_name`: the identifiers that can name something.
* `DisplayCode.names_ofSummary`, `DisplayCode.name_of_ofSummary_error`: whether a summary is rendered is
  decided by its names one by one.
* `DisplayCode.ofSummary_cases`: what follows for names from source text.
-/

namespace DisplayGen

open Source

theorem Text.unraw_raw (name : String) : Text.unraw ("r#" ++ name) = name := by
  have htext : ("r#" ++ name).toList = 'r' :: '#' :: name.toList := by simp
  unfold Text.unraw
  rw [htext]
  simp [Text.afterStart?]

namespace Source.Ident

/-- A name as written, less its `r#`, is the name. -/
theorem unraw_written (i : Ident) : Text.unraw i.written = i.name := by
  unfold written
  split
  · exact Text.unraw_raw i.name
  · exact Text.unraw_of_isWord i.isWord_name

theorem unraw_name (i : Ident) : Text.unraw i.name = i.name := Text.unraw_of_isWord i.isWord_name

/-- What names something can be written raw, or stands for itself. -/
theorem not_mem_neverRaw {i : Ident} (h : i.isName = true) : i.name ∉ neverRaw := by
  have hspelled := i.spelled
  unfold isSpelling at hspelled
  unfold isName at h
  cases hraw : i.raw with
  | true =>
    rw [hraw] at hspelled
    simpa using (Bool.and_eq_true_iff.1 hspelled).2
  | false =>
    rw [hraw, Bool.false_or] at h
    have hsub : ∀ w ∈ neverRaw, w ∈ reservedWords := by decide
    intro hmem
    have hreserved := hsub _ hmem
    simp [hreserved] at h

end Source.Ident

/-- A word is written as it stands, or raw if it is reserved. -/
theorem identFor_of_unraw {i : Ident} {name : String} (hi : i.isName = true)
    (hname : Text.unraw name = i.name) : ∃ j, identFor name = .ok j := by
  have hplain : isSpelling false i.name = true := by simp [isSpelling, i.isWord_name]
  have hraw : isSpelling true i.name = true := by
    have hnever := Ident.not_mem_neverRaw hi
    simp [isSpelling, i.isWord_name, hnever]
  have hread : Ident.read? i.name = _ := Ident.read?_written ⟨false, i.name, hplain⟩
  have hreadRaw : Ident.read? ("r#" ++ i.name) = _ := Ident.read?_written ⟨true, i.name, hraw⟩
  unfold identFor
  rw [hname]
  dsimp only
  rw [hread]
  split
  · exact ⟨_, rfl⟩
  · rw [hreadRaw]
    exact ⟨_, rfl⟩

theorem identFor_written {i : Ident} (h : i.isName = true) : ∃ j, identFor i.written = .ok j :=
  identFor_of_unraw h i.unraw_written

theorem identFor_name {i : Ident} (h : i.isName = true) : ∃ j, identFor i.name = .ok j :=
  identFor_of_unraw h i.unraw_name

theorem identFor_wild : identFor "_" = .error (.invalidIdentifier "_") := by decide +kernel

theorem identFor_error {name : String} {e : GenerationError} (h : identFor name = .error e) :
    ∃ n, e = .invalidIdentifier n := by
  unfold identFor at h
  dsimp only at h
  split at h
  · cases h
  · split at h
    · cases h
    · cases h
      exact ⟨_, rfl⟩

/-- A summary is not rendered for the fault of one of its names. -/
theorem DisplayCode.name_of_ofSummary_error {s : Summary} {e : GenerationError}
    (h : ofSummary s = .error e) : ∃ n ∈ s.typeName :: s.memberNames, identFor n = .error e := by
  rcases bind_error h with h | ⟨type, -, h⟩
  · exact ⟨s.typeName, List.mem_cons_self, h⟩
  · rcases bind_error h with h | ⟨fields, -, h⟩
    · obtain ⟨n, hn, hname⟩ := mapM_error h
      exact ⟨n, List.mem_cons_of_mem _ hn, hname⟩
    · cases h

/-- A summary is not rendered for a name that is no identifier, and for nothing else. -/
theorem DisplayCode.ofSummary_error {s : Summary} {e : GenerationError} (h : ofSummary s = .error e) :
    ∃ n, e = .invalidIdentifier n := by
  obtain ⟨n, -, hname⟩ := name_of_ofSummary_error h
  exact identFor_error hname

/-- All names of a summary that is rendered can be written. -/
theorem DisplayCode.names_ofSummary {s : Summary} {code : DisplayCode} (h : ofSummary s = .ok code) :
    ∀ n ∈ s.typeName :: s.memberNames, ∃ i, identFor n = .ok i := by
  obtain ⟨type, htype, h⟩ := bind_ok h
  obtain ⟨fields, hfields, -⟩ := bind_ok h
  have hmembers : List.Forall₂ (fun n i => (∃ i, identFor n = .ok i) ∧ identFor n = .ok i)
      s.memberNames fields := (mapM_ok_iff.1 hfields).imp fun n i hi => ⟨⟨i, hi⟩, hi⟩
  exact List.forall_mem_cons.2 ⟨⟨type, htype⟩, ((List.forall₂_and_left _ _).1 hmembers).1⟩

/-- A summary with names from source text is rendered, unless a field is written `_`. -/
theorem DisplayCode.ofSummary_cases {s : Summary} (htype : ∃ i, identFor s.typeName = .ok i)
    (hmembers : ∀ n ∈ s.memberNames, n ≠ "_" → ∃ i, identFor n = .ok i) :
    ((∃ code, ofSummary s = .ok code) ∧ "_" ∉ s.memberNames) ∨
      (ofSummary s = .error (.invalidIdentifier "_") ∧ "_" ∈ s.memberNames) := by
  obtain ⟨type, htype⟩ := htype
  unfold ofSummary
  rw [htype]
  rcases mapM_cases (P := (· = "_")) (e := .invalidIdentifier "_")
    (fun n _ hn => hn ▸ identFor_wild) hmembers with ⟨fields, hfields, hall⟩ | ⟨hfail, n, hn, rfl⟩
  · exact .inl ⟨⟨_, by rw [hfields]; rfl⟩, fun hmem => hall "_" hmem rfl⟩
  · exact .inr ⟨by rw [hfail]; rfl, hn⟩

end DisplayGen
