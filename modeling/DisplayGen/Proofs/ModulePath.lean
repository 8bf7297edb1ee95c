import DisplayGen.ModulePath
import DisplayGen.Proofs.Disk.Path
import DisplayGen.Proofs.Source.Lexer.Word
import DisplayGen.Proofs.Text.Split

/-!
# Names without slashes

A name without a slash is one piece of a path (`Unslashed`). Identifiers are such names, and so are the
modules that files stand for (`unslashed_moduleOfFile`); joining and dotting them adds no slash. The pieces
of a text between its `::` make the text again (`Text.toList_of_splitPath`). A path of names without colons,
dotted, is the names joined by points (`Text.dotted_joinPath`).
-/

namespace DisplayGen

/-- The text has no slash. -/
def Unslashed (s : String) : Prop := '/' ∉ s.toList

theorem Unslashed.append {s t : String} (hs : Unslashed s) (ht : Unslashed t) : Unslashed (s ++ t) := by
  unfold Unslashed
  rw [String.toList_append, List.mem_append, not_or]
  exact ⟨hs, ht⟩

theorem unslashed_of_isWord {s : String} (h : Text.isWord s.toList = true) : Unslashed s :=
  Text.not_mem_of_isWord h

theorem Source.Ident.unslashed (i : Ident) : Unslashed i.name := unslashed_of_isWord i.isWord_name

/-! ## Modules of files -/

theorem unslashed_ofList {piece : List Char} (h : '/' ∉ piece) : Unslashed (String.ofList piece) := by
  unfold Unslashed
  rwa [String.toList_ofList]

theorem laterPart?_name {piece : List Char} {n : String} (h : laterPart? piece = some (.name n)) :
    n = String.ofList piece := by
  unfold laterPart? at h
  split at h
  · cases h
  · cases h
  · cases h
  · cases h
    rfl

theorem firstPart?_name {alone : Bool} {piece : List Char} {n : String}
    (h : firstPart? alone piece = some (.name n)) : n = String.ofList piece := by
  unfold firstPart? at h
  split at h
  · split at h
    · cases h
    · cases h
  · cases h
  · exact laterPart?_name h

theorem unslashed_pathNames {path n : String} (h : n ∈ pathNames path) : Unslashed n := by
  have hpieces : ∀ piece ∈ splitSlashes path.toList, Unslashed (String.ofList piece) :=
    fun piece hpiece => unslashed_ofList fun hslash => (mem_splitSlashes hpiece hslash).2 rfl
  obtain ⟨part, hpart, hn⟩ := List.mem_filterMap.1 h
  split at hn
  · rename_i name
    cases hn
    unfold pathParts at hpart
    split at hpart
    · cases hpart
    · rename_i first rest hsplit
      rcases List.mem_append.1 hpart with hfirst | hrest
      · rw [firstPart?_name (Option.mem_toList.1 hfirst)]
        exact hpieces first (hsplit ▸ List.mem_cons_self ..)
      · obtain ⟨piece, hpiece, hname⟩ := List.mem_filterMap.1 hrest
        rw [laterPart?_name hname]
        exact hpieces piece (hsplit ▸ List.mem_cons_of_mem first hpiece)
  · cases hn

theorem unslashed_fileStem {name : String} (h : Unslashed name) : Unslashed (fileStem name) := by
  unfold fileStem
  split
  · rename_i r hreverse
    refine unslashed_ofList fun hmem => h ?_
    rw [← List.mem_reverse, hreverse]
    exact List.mem_append_right ['s', 'r', '.'] (List.mem_reverse.1 hmem)
  · exact h

/-- The names on the path of a file's module have no slashes. -/
theorem unslashed_moduleOfFile {path n : String} (h : n ∈ moduleOfFile path) : Unslashed n := by
  have hbefore : ∀ n ∈ (pathNames path).dropLast, Unslashed n :=
    fun n hn => unslashed_pathNames (List.dropLast_subset _ hn)
  unfold moduleOfFile at h
  dsimp only at h
  split at h
  · cases h
  · rename_i last hlast
    split at h
    · exact hbefore n h
    · rcases List.mem_append.1 h with h | h
      · exact hbefore n h
      · rw [List.mem_singleton.1 h]
        exact unslashed_fileStem (unslashed_pathNames (List.mem_of_getLast? hlast))

/-! ## Paths with `::` and with points -/

theorem Text.unslashed_joinPath {names : List String} (h : ∀ n ∈ names, Unslashed n) :
    Unslashed (joinPath names) := by
  intro hmem
  rcases mem_joinWith hmem with hsep | ⟨n, hn, hname⟩
  · exact absurd hsep (by decide)
  · exact h n hn hname

theorem Text.mem_dotColons {c : Char} {cs : List Char} (h : c ∈ dotColons cs) : c = '.' ∨ c ∈ cs := by
  fun_induction dotColons cs with
  | case1 => cases h
  | case2 r ih =>
    rcases List.mem_cons.1 h with h | h
    · exact .inl h
    · exact (ih h).imp_right fun h => List.mem_cons_of_mem _ (List.mem_cons_of_mem _ h)
  | case3 d r _ ih =>
    rcases List.mem_cons.1 h with rfl | h
    · exact .inr (List.mem_cons_self ..)
    · exact (ih h).imp_right (List.mem_cons_of_mem d)

theorem Text.unslashed_dotted {s : String} (h : Unslashed s) : Unslashed (dotted s) := by
  refine unslashed_ofList fun hmem => ?_
  rcases mem_dotColons hmem with hpoint | hmem
  · exact absurd hpoint (by decide)
  · exact h hmem

theorem Text.toList_of_splitPath {s first : String} {rest : List String}
    (h : splitPath s = first :: rest) :
    s.toList = first.toList ++ (rest.map String.toList).flatMap (':' :: ':' :: ·) := by
  obtain ⟨p, ps, hsplit, heq⟩ := splitColons_spec s.toList
  unfold splitPath at h
  rw [hsplit, List.map_cons] at h
  obtain ⟨rfl, rfl⟩ := List.cons.inj h
  simpa [Function.comp_def] using heq

theorem Text.unslashed_of_splitPath {s n : String} (hs : Unslashed s) (h : n ∈ splitPath s) :
    Unslashed n := by
  cases hsplit : splitPath s with
  | nil =>
    rw [hsplit] at h
    cases h
  | cons first rest =>
    have htext := toList_of_splitPath hsplit
    rw [hsplit] at h
    refine fun hmem => hs ?_
    rw [htext]
    rcases List.mem_cons.1 h with rfl | h
    · exact List.mem_append_left _ hmem
    · refine List.mem_append_right _ (List.mem_flatMap.2 ⟨n.toList, List.mem_map_of_mem h, ?_⟩)
      exact List.mem_cons_of_mem _ (List.mem_cons_of_mem _ hmem)

/-- What stands before the first `::` is left as it is. -/
theorem Text.dotColons_append {start : List Char} (h : ':' ∉ start) (rest : List Char) :
    dotColons (start ++ rest) = start ++ dotColons rest := by
  induction start with
  | nil => rfl
  | cons c start ih =>
    rw [List.mem_cons, not_or] at h
    rw [List.cons_append, List.cons_append, dotColons, ih h.2]
    intro r hr
    exact absurd hr (Ne.symm h.1)

/-- A path of names without colons, with points. -/
theorem Text.dotted_joinPath {names : List String} (h : ∀ n ∈ names, ':' ∉ n.toList) :
    dotted (joinPath names) = joinWith "." names := by
  refine String.toList_injective ?_
  unfold dotted joinPath
  rw [String.toList_ofList]
  induction names with
  | nil => rfl
  | cons n names ih =>
    obtain ⟨hn, hnames⟩ := List.forall_mem_cons.1 h
    cases names with
    | nil =>
      have hdots := dotColons_append hn []
      rwa [List.append_nil, dotColons, List.append_nil] at hdots
    | cons m names =>
      have hcolons : "::".toList = [':', ':'] := rfl
      have hpoint : ".".toList = ['.'] := rfl
      rw [joinWith, joinWith, String.toList_append, String.toList_append, String.toList_append,
        String.toList_append, hcolons, hpoint, List.append_assoc, List.append_assoc, ← ih hnames]
      exact dotColons_append hn _

end DisplayGen
