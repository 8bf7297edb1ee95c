import DisplayGen.Proofs.ModulePath
import DisplayGen.Source.Fragment

/-!
# Paths of words

An identifier, written out, is read as itself (`Ident.read?_written`), and so is a path from the crate on
through such identifiers (`SimplePath.read?_crate`).
-/

namespace DisplayGen

open Source Source.Lexer

namespace Source

/-- The path of an attribute that a text holds. -/
def SimplePath.read? : String → Option SimplePath := readFragment? fun _ => Grammar.simplePath

/-- The tokens of further segments of a path. -/
def segmentTokens (segments : List Ident) : List Token :=
  segments.flatMap fun i => [.punct ':' true, .punct ':' false, .ident i]

/-- The token trees of further segments of a path. -/
def segmentTrees (segments : List Ident) : List TokenTree :=
  segments.flatMap fun i => [.punct ':' true, .punct ':' false, .ident i]

/-- The characters of further segments of a path. -/
def segmentChars (segments : List Ident) : List Char :=
  segments.flatMap fun i => ':' :: ':' :: i.written.toList

variable {segments : List Ident} {i : Ident} {rest rest' : List Char} {ts : List Token}

/-- An identifier as written is no byte order mark, and no punctuation. -/
theorem Ident.toList_written (i : Ident) :
    ∃ c r, i.written.toList = c :: r ∧ Text.isIdentStart c = true := by
  unfold written
  cases i.raw with
  | false =>
    obtain ⟨c, r, heq, hc, -⟩ := Text.isWord_iff.1 i.isWord_name
    exact ⟨c, r, heq, hc⟩
  | true => exact ⟨'r', '#' :: i.name.toList, by simp, by decide⟩

theorem punctChar?_written (i : Ident) (rest : List Char) :
    punctChar? (i.written.toList ++ rest) = none := by
  obtain ⟨c, r, heq, hc⟩ := i.toList_written
  have hslash : c ≠ '/' := Text.ne_of_isIdentStart hc
  rw [heq, List.cons_append]
  unfold punctChar?
  simp [hslash, isPunctChar_eq_false hc]

/-- Before what is no punctuation, a colon, a comma or a point is joined to nothing. -/
theorem step?_single {c : Char} {r : List Char} (hc : c ∈ [',', '.', ':']) (hr : punctChar? r = none) :
    step? (c :: r) = some ([.punct c false], r) := by
  have hstep : step? (c :: r) = some ([.punct c (punctChar? r).isSome], r) := by
    simp only [List.mem_cons, List.not_mem_nil, or_false] at hc
    rcases hc with rfl | rfl | rfl
    all_goals rfl
  rw [hstep, hr]
  rfl

theorem endsWord_segments (h : EndsWord rest) : EndsWord (segmentChars segments ++ rest) := by
  cases segments with
  | nil => exact h
  | cons => exact endsWord_cons

theorem runs_segments (segments : List Ident) (hrest : EndsWord rest) (h : Runs rest ts rest') :
    Runs (segmentChars segments ++ rest) (segmentTokens segments ++ ts) rest' := by
  induction segments with
  | nil => exact h
  | cons i segments ih =>
    unfold segmentChars segmentTokens at ih ⊢
    simp only [List.flatMap_cons, List.cons_append, List.nil_append, List.append_assoc]
    exact .token rfl (.token (step?_single (by decide) (punctChar?_written i _))
      (.ident i (endsWord_segments hrest) ih))

theorem nestFrom_segments (outer : List TokenTree.OpenGroup) (done : List TokenTree)
    (segments : List Ident) (ts : List Token) :
    TokenTree.nestFrom outer done (segmentTokens segments ++ ts) =
      TokenTree.nestFrom outer ((segmentTrees segments).reverse ++ done) ts := by
  induction segments generalizing done with
  | nil => rfl
  | cons i segments ih =>
    refine (ih (.ident i :: .punct ':' false :: .punct ':' true :: done)).trans ?_
    simp [segmentTrees]

theorem scan?_path (i : Ident) (segments : List Ident) :
    TokenTree.scan? (i.written.toList ++ segmentChars segments) =
      some (.ident i :: segmentTrees segments) := by
  obtain ⟨c, r, heq, hc⟩ := i.toList_written
  have hruns := Runs.ident i (endsWord_segments endsWord_nil) (runs_segments segments endsWord_nil .done)
  have hnest := nestFrom_segments [] [.ident i] segments []
  rw [List.append_nil, List.append_nil] at hruns
  rw [List.append_nil] at hnest
  rw [heq, List.cons_append] at hruns ⊢
  unfold TokenTree.scan?
  rw [Token.scan?_of_runs (Text.ne_of_isIdentStart hc (by decide +kernel)) hruns]
  refine hnest.trans ?_
  simp [TokenTree.nestFrom]

/-- An identifier as written is read as itself, if it can be a name. -/
theorem Ident.read?_written (i : Ident) : read? i.written = if i.isName then some i else none := by
  have hscan := scan?_path i []
  rw [segmentChars, List.flatMap_nil, List.append_nil] at hscan
  unfold read? readFragment?
  rw [hscan]
  by_cases hname : i.isName = true
  · have hread : Reader.name [.ident i] = some (i, []) := if_pos hname
    simp only [segmentTrees, List.flatMap_nil, Reader.whole?, hread, hname, if_true]
  · have hread : Reader.name [.ident i] = none := if_neg hname
    simp only [segmentTrees, List.flatMap_nil, Reader.whole?, hread, hname]
    rfl

theorem repeatedly_segments (h : ∀ i ∈ segments, i.isName = true) :
    Reader.repeatedly (Peek.op "::") (do Reader.op "::"; Grammar.pathWord) (segmentTrees segments) =
      some (segments, []) := by
  have hfrom : ∀ fuel, segments.length < fuel →
      Reader.repeatedlyFrom (Peek.op "::") (do Reader.op "::"; Grammar.pathWord) fuel
        (segmentTrees segments) = some (segments, []) := by
    induction segments with
    | nil =>
      intro fuel hfuel
      obtain ⟨fuel, rfl⟩ := Nat.exists_eq_succ_of_ne_zero (Nat.ne_of_gt hfuel)
      rfl
    | cons i segments ih =>
      obtain ⟨hi, hsegments⟩ := List.forall_mem_cons.1 h
      intro fuel hfuel
      obtain ⟨fuel, rfl⟩ := Nat.exists_eq_succ_of_ne_zero (Nat.ne_of_gt (Nat.zero_lt_of_lt hfuel))
      have hword : Grammar.pathWord (.ident i :: segmentTrees segments) =
          some (i, segmentTrees segments) := by
        refine Eq.trans (b := (if i.isName ||
          (!i.raw && ["super", "self", "Self", "crate"].contains i.name) then pure i
          else Reader.reject : Reader Ident) (segmentTrees segments)) rfl ?_
        rw [if_pos (by rw [hi]; rfl)]
        rfl
      have hrest := ih hsegments fuel (by rw [List.length_cons] at hfuel; omega)
      refine Eq.trans (b := (Grammar.pathWord (.ident i :: segmentTrees segments)).bind fun p =>
        (Reader.repeatedlyFrom (Peek.op "::") (do Reader.op "::"; Grammar.pathWord) fuel p.2).bind
          fun q => some (p.1 :: q.1, q.2)) rfl ?_
      rw [hword, Option.bind_some, hrest]
      rfl
  refine hfrom _ ?_
  have hlength : (segmentTrees segments).length = 3 * segments.length := by
    unfold segmentTrees
    simp [List.length_flatMap]
    omega
  omega

/-- A path from the crate on, with the segments as written, is read as itself. -/
theorem SimplePath.read?_crate {text : String} (h : ∀ i ∈ segments, i.isName = true)
    (htext : text.toList = "crate".toList ++ segmentChars segments) :
    read? text = some ⟨false, .plain "crate" :: segments⟩ := by
  have hscan : TokenTree.scan? text.toList = some (.word "crate" :: segmentTrees segments) := by
    rw [htext]
    exact scan?_path (.plain "crate") segments
  have hread : Grammar.simplePath (.word "crate" :: segmentTrees segments) =
      some (⟨false, .plain "crate" :: segments⟩, []) := by
    refine Eq.trans (b := (Reader.repeatedly (Peek.op "::")
      (do Reader.op "::"; Grammar.pathWord) (segmentTrees segments)).bind fun p =>
        some (⟨false, .plain "crate" :: p.1⟩, p.2)) rfl ?_
    rw [repeatedly_segments h]
    rfl
  unfold read? readFragment?
  rw [hscan]
  dsimp only
  unfold Reader.whole?
  rw [hread]

end Source

end DisplayGen
