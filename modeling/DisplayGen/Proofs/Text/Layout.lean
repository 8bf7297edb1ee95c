import DisplayGen.Text.Layout

/-!
# What a layout keeps

However pieces are laid out, they stand in the text in their order, with nothing but gaps between them, and
a gap before each piece that is set off (`Spread`). So what is read from a text without regard to gaps does
not depend on where lines break.

* `spread_inLine`, `spread_fillFrom`: pieces on one line, and pieces on as many lines as they need.
* `spread_bracketed`, `spread_inOneOrTwo`: either layout of what may be broken.
-/

namespace DisplayGen.Text

/-- The characters are blanks and line breaks. -/
def IsGap (cs : List Char) : Prop := ∀ c ∈ cs, c = ' ' ∨ c = '\n'

/-- The pieces stand in a row, each behind a gap, which is not empty where the piece is set off. -/
inductive Spread : List Piece → List Char → Prop where
  | nil : Spread [] []
  | cons {p : Piece} {ps : List Piece} {gap cs : List Char} (isGap : IsGap gap)
      (spaced : p.spaced = true → gap ≠ []) (h : Spread ps cs) :
      Spread (p :: ps) (gap ++ (p.text.toList ++ cs))

variable {gap gap' cs : List Char} {p : Piece} {ps : List Piece}

theorem Spread.exists_gap (h : Spread (p :: ps) cs) : ∃ gap rest, IsGap gap ∧
    (p.spaced = true → gap ≠ []) ∧ Spread ps rest ∧ cs = gap ++ (p.text.toList ++ rest) := by
  cases h with
  | cons isGap spaced h => exact ⟨_, _, isGap, spaced, h, rfl⟩

theorem Spread.eq_nil (h : Spread [] cs) : cs = [] := by
  cases h
  rfl

/-! ## Gaps -/

theorem IsGap.append (h : IsGap gap) (h' : IsGap gap') : IsGap (gap ++ gap') :=
  fun c hc => (List.mem_append.1 hc).elim (h c) (h' c)

theorem isGap_nil : IsGap [] := fun _ hc => nomatch hc

theorem isGap_break : IsGap ['\n'] := fun _ hc => .inr (List.mem_singleton.1 hc)

theorem isGap_blank : IsGap [' '] := fun _ hc => .inl (List.mem_singleton.1 hc)

theorem isGap_margin (n : Nat) : IsGap (margin n).toList := by
  intro c hc
  rw [margin, String.toList_ofList] at hc
  exact .inl (List.eq_of_mem_replicate hc)

/-! ## Lines -/

theorem unlines_cons (line : String) (lines : List String) :
    (unlines (line :: lines)).toList = line.toList ++ '\n' :: (unlines lines).toList := by
  have hbreak : "\n".toList = ['\n'] := rfl
  simp only [unlines, List.map_cons, String.join_cons, String.toList_append, hbreak, List.append_assoc,
    List.singleton_append]

theorem unlines_append (lines lines' : List String) :
    (unlines (lines ++ lines')).toList = (unlines lines).toList ++ (unlines lines').toList := by
  induction lines with
  | nil => rfl
  | cons line lines ih =>
    rw [List.cons_append, unlines_cons, unlines_cons, ih, List.append_assoc, List.cons_append]

theorem unlines_singleton (line : String) : (unlines [line]).toList = line.toList ++ ['\n'] :=
  unlines_cons line []

/-! ## Pieces -/

/-- A piece that continues a line stands behind a gap. -/
theorem toList_continued (p : Piece) : ∃ gap, IsGap gap ∧ (p.spaced = true → gap ≠ []) ∧
    p.continued.toList = gap ++ p.text.toList := by
  unfold Piece.continued
  split
  · exact ⟨[' '], isGap_blank, by simp, String.toList_append⟩
  · rename_i h
    exact ⟨[], isGap_nil, fun hspaced => absurd hspaced h, rfl⟩

theorem spread_inLine (p : Piece) (ps : List Piece) :
    ∃ cs, Spread ps cs ∧ (inLine (p :: ps)).toList = p.text.toList ++ cs := by
  have hfold : ∀ (ps : List Piece) (line : String), ∃ cs, Spread ps cs ∧
      (ps.foldl (fun line q => line ++ q.continued) line).toList = line.toList ++ cs := by
    intro ps
    induction ps with
    | nil => exact fun line => ⟨[], .nil, (List.append_nil _).symm⟩
    | cons q ps ih =>
      intro line
      obtain ⟨cs, hcs, heq⟩ := ih (line ++ q.continued)
      obtain ⟨gap, hgap, hspaced, hcontinued⟩ := toList_continued q
      refine ⟨_, .cons hgap hspaced hcs, heq.trans ?_⟩
      rw [String.toList_append, hcontinued]
      simp only [List.append_assoc]
  exact hfold ps p.text

theorem spread_fillFrom (indent : Nat) (line : String) (ps : List Piece) : ∃ cs, Spread ps cs ∧
    (unlines (fillFrom indent line ps)).toList = line.toList ++ (cs ++ ['\n']) := by
  induction ps generalizing line with
  | nil => exact ⟨[], .nil, unlines_singleton line⟩
  | cons p ps ih =>
    unfold fillFrom
    dsimp only
    split
    · obtain ⟨cs, hcs, heq⟩ := ih (line ++ p.continued)
      obtain ⟨gap, hgap, hspaced, hcontinued⟩ := toList_continued p
      refine ⟨_, .cons hgap hspaced hcs, heq.trans ?_⟩
      rw [String.toList_append, hcontinued]
      simp only [List.append_assoc]
    · obtain ⟨cs, hcs, heq⟩ := ih (margin indent ++ p.text)
      refine ⟨_, .cons (isGap_break.append (isGap_margin indent)) (by simp) hcs, ?_⟩
      rw [unlines_cons, heq, String.toList_append]
      simp only [List.append_assoc, List.cons_append, List.nil_append]

/-! ## What may be broken -/

theorem spread_inOneOrTwo (indent : Nat) (first second : String) : ∃ gap, IsGap gap ∧ gap ≠ [] ∧
    (unlines (inOneOrTwo indent first second)).toList =
      (margin indent).toList ++ (first.toList ++ (gap ++ (second.toList ++ ['\n']))) := by
  have hblank : " ".toList = [' '] := rfl
  unfold inOneOrTwo
  dsimp only
  split
  · refine ⟨[' '], isGap_blank, by simp, ?_⟩
    rw [unlines_singleton]
    simp only [String.toList_append, hblank, List.append_assoc]
  · refine ⟨'\n' :: (margin indent).toList, isGap_break.append (isGap_margin indent), by simp, ?_⟩
    rw [unlines_cons, unlines_singleton]
    simp only [String.toList_append, List.append_assoc, List.cons_append]

theorem spread_bracketed (indent : Nat) (opening closing : String) (p : Piece) (ps : List Piece) :
    ∃ gap cs gap', IsGap gap ∧ Spread ps cs ∧ IsGap gap' ∧
      (unlines (bracketed indent opening closing (p :: ps))).toList = (margin indent).toList ++
        (opening.toList ++ (gap ++ (p.text.toList ++ (cs ++ (gap' ++ (closing.toList ++ ['\n'])))))) := by
  unfold bracketed
  dsimp only
  split
  · obtain ⟨cs, hcs, heq⟩ := spread_inLine p ps
    refine ⟨[], cs, [], isGap_nil, hcs, isGap_nil, ?_⟩
    rw [unlines_singleton]
    simp only [String.toList_append, heq, List.append_assoc, List.nil_append]
  · obtain ⟨cs, hcs, heq⟩ := spread_fillFrom (indent + 4) (margin (indent + 4) ++ p.text) ps
    refine ⟨'\n' :: (margin (indent + 4)).toList, cs, '\n' :: (margin indent).toList,
      isGap_break.append (isGap_margin _), hcs, isGap_break.append (isGap_margin _), ?_⟩
    rw [unlines_append, unlines_append, unlines_singleton, unlines_singleton, fill, heq]
    simp only [String.toList_append, List.append_assoc, List.cons_append, List.nil_append]

end DisplayGen.Text
