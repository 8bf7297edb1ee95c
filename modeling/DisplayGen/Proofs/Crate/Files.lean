import DisplayGen.Proofs.Disk.Walk
import DisplayGen.Proofs.ModulePath

/-!
# Names and modules of source files

The unit of a source file is named by the file's path, and the path can be cut into its names again
(`pathNames_shown`), so that units of different files have different names. The unit stands for the module
that `moduleAt` gives (`moduleOfFile_shown`): the file's directories and its name without the extension, which
is left out for `mod.rs`, and for `lib.rs` and `main.rs` at the top.
-/

namespace DisplayGen

open Disk (shown)

variable {file : List String}

/-! ## Paths that are shown -/

theorem splitSlashes_eq (cs : List Char) : splitSlashes cs = Text.splitAtChar '/' cs := by
  induction cs with
  | nil => rfl
  | cons c cs ih =>
    by_cases hc : c = '/'
    · subst hc
      rw [splitSlashes, Text.splitAtChar, if_pos rfl, ih]
    · rw [splitSlashes_cons hc, Text.splitAtChar, if_neg hc, ih]

theorem laterPart?_plain {n : String} (h : IsPlainName n) : laterPart? n.toList = some (.name n) := by
  have hinner := innerPart?_plain h.2
  have hpoint : n.toList ≠ ['.'] := fun heq => h.2 (by rw [heq]; simp)
  unfold innerPart? at hinner
  split at hinner
  · contradiction
  · rwa [String.ofList_toList] at hinner

theorem firstPart?_plain {n : String} (h : IsPlainName n) (alone : Bool) :
    firstPart? alone n.toList = some (.name n) := by
  have hempty : n.toList ≠ [] := fun heq => h.2 (by rw [heq]; simp)
  have hpoint : n.toList ≠ ['.'] := fun heq => h.2 (by rw [heq]; simp)
  unfold firstPart?
  split
  · contradiction
  · contradiction
  · exact laterPart?_plain h

/-- A path that is shown has the names that it was made of. -/
theorem pathNames_shown (h : ∀ n ∈ file, IsPlainName n) : pathNames (shown file) = file := by
  cases file with
  | nil => rfl
  | cons n file =>
    obtain ⟨hn, hfile⟩ := List.forall_mem_cons.1 h
    have hsplit : splitSlashes (shown (n :: file)).toList = (n :: file).map String.toList := by
      rw [splitSlashes_eq]
      exact Text.splitAtChar_joinWith rfl (List.cons_ne_nil n file) fun m hm => (h m hm).1
    have hrest : (file.map String.toList).filterMap laterPart? = file.map PathPart.name := by
      rw [List.filterMap_map, ← List.filterMap_eq_map]
      exact List.filterMap_congr fun m hm => laterPart?_plain (hfile m hm)
    unfold pathNames pathParts
    rw [hsplit, List.map_cons]
    show List.filterMap _ ((firstPart? _ n.toList).toList ++ List.filterMap laterPart? _) = _
    rw [firstPart?_plain hn, hrest]
    simp

/-- Different files are shown differently. -/
theorem shown_inj {file' : List String} (h : ∀ n ∈ file, IsPlainName n)
    (h' : ∀ n ∈ file', IsPlainName n) (heq : shown file = shown file') : file = file' := by
  rw [← pathNames_shown h, heq, pathNames_shown h']

/-! ## Names of units -/

theorem Text.replaceChar_of_not_mem {a b : Char} {s : String} (h : a ∉ s.toList) :
    replaceChar a b s = s := by
  have hsame : ∀ c ∈ s.toList, (if c = a then b else c) = c := by
    intro c hc
    rw [if_neg]
    rintro rfl
    exact h hc
  unfold replaceChar
  rw [List.map_congr_left hsame, List.map_id', String.ofList_toList]

/-- A unit is named by the path of its file, if that has no backslash. -/
theorem unitName_eq (h : ∀ n ∈ file, '\\' ∉ n.toList) : unitName file = shown file := by
  apply Text.replaceChar_of_not_mem
  intro hmem
  rcases Text.mem_joinWith hmem with hsep | ⟨n, hn, hname⟩
  · exact absurd hsep (by decide)
  · exact h n hn hname

/-! ## Modules of units -/

theorem fileStem_append (stem : String) : fileStem (stem ++ ".rs") = stem := by
  have hreverse : (stem ++ ".rs").toList.reverse = 's' :: 'r' :: '.' :: stem.toList.reverse := by
    simp
  unfold fileStem
  rw [hreverse]
  simp

/-- The module of a source file: its directories and its name without the extension, which is left out for
`mod.rs` anywhere, and for `lib.rs` and `main.rs` at the top. -/
def moduleAt (dirs : List String) (stem : String) : List String :=
  if stem = "mod" ∨ dirs = [] ∧ (stem = "lib" ∨ stem = "main") then dirs else dirs ++ [stem]

theorem moduleOfFile_shown {dirs : List String} {stem : String}
    (h : ∀ n ∈ dirs ++ [stem ++ ".rs"], IsPlainName n) :
    moduleOfFile (shown (dirs ++ [stem ++ ".rs"])) = moduleAt dirs stem := by
  unfold moduleOfFile
  rw [pathNames_shown h]
  simp only [List.getLast?_concat, List.dropLast_concat, fileStem_append]
  unfold moduleAt
  congr 1
  simp [Bool.or_eq_true, or_comm]

/-- A module can have a file of its name or one in a directory of its name, but at the top `lib` and `main`
cannot, and nowhere can `mod`. -/
theorem moduleAt_mod {dirs : List String} {n : String} (h : n ≠ "mod")
    (htop : dirs = [] → n ≠ "lib" ∧ n ≠ "main") : moduleAt dirs n = moduleAt (dirs ++ [n]) "mod" := by
  have hkept : ¬ (n = "mod" ∨ dirs = [] ∧ (n = "lib" ∨ n = "main")) := by
    rintro (hmod | ⟨hdirs, hlib | hmain⟩)
    · exact h hmod
    · exact (htop hdirs).1 hlib
    · exact (htop hdirs).2 hmain
  unfold moduleAt
  rw [if_neg hkept, if_pos (.inl rfl)]

end DisplayGen
