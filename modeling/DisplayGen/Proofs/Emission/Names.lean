import DisplayGen.Emission.Code
import DisplayGen.Proofs.Except
import DisplayGen.Proofs.Source.SimplePath

/-!
# Names as identifiers

`Ident.IsNamed i name`: generated code writes the identifier `i` for the name. `identFor_ok`: whenever it
writes anything for a name, this is so.

A name that cannot be read is read once more behind `r#`. What comes out then is the word that the name
begins with, and the name alone is that word too: `scan?_raw` follows the lexer back.
-/

namespace DisplayGen

open Text (isIdentContinue)

namespace Source

namespace TokenTree

theorem sizeAll_append (ts us : List TokenTree) : sizeAll (ts ++ us) = sizeAll ts + sizeAll us := by
  induction ts with
  | nil => simp [sizeAll]
  | cons t ts ih => simp only [List.cons_append, sizeAll, ih, Nat.add_assoc]

theorem sizeAll_reverse (ts : List TokenTree) : sizeAll ts.reverse = sizeAll ts := by
  induction ts with
  | nil => rfl
  | cons t ts ih =>
    rw [List.reverse_cons, sizeAll_append, ih]
    simp only [sizeAll]
    omega

/-- The number of tokens in the groups that are open, their brackets included. -/
def openSize : List OpenGroup → Nat
  | [] => 0
  | g :: outer => sizeAll g.2 + 1 + openSize outer

theorem sizeAll_nestFrom {outer : List OpenGroup} {done us : List TokenTree} {ts : List Token}
    (h : nestFrom outer done ts = some us) :
    sizeAll us = openSize outer + sizeAll done + ts.length := by
  fun_induction nestFrom outer done ts with
  | case1 outer done houter =>
    cases h
    obtain rfl := List.isEmpty_iff.1 houter
    simp [openSize, sizeAll_reverse]
  | case2 => cases h
  | case3 outer done i ts ih
  | case4 outer done c j ts ih
  | case5 outer done l ts ih =>
    rw [ih h]
    simp only [sizeAll, size, List.length_cons]
    omega
  | case6 outer done d ts ih =>
    rw [ih h]
    simp only [openSize, sizeAll, List.length_cons]
    omega
  | case7 => cases h
  | case8 done ts d before outer ih =>
    rw [ih h]
    simp only [openSize, sizeAll, size, sizeAll_reverse, List.length_cons]
    omega
  | case9 => cases h

/-- Reading tokens into trees loses none of them. -/
theorem sizeAll_nest? {ts : List Token} {us : List TokenTree} (h : nest? ts = some us) :
    sizeAll us = ts.length := by
  have hsize := sizeAll_nestFrom h
  simpa [openSize, sizeAll] using hsize

theorem eq_of_nest?_ident {ts : List Token} {i : Ident} (h : nest? ts = some [.ident i]) :
    ts = [.ident i] := by
  have hsize := sizeAll_nest? h
  obtain ⟨t, rfl⟩ := List.length_eq_one_iff.1 hsize.symm
  cases t with
  | ident j =>
    cases h
    rfl
  | _ => cases h

end TokenTree

namespace Lexer

variable {cs rest bare : List Char} {ts : List Token} {i : Ident}

theorem runs_of_scanFrom {fuel : Nat} (h : scanFrom fuel cs = some ts) : Runs cs ts [] := by
  induction fuel generalizing cs ts with
  | zero =>
    cases cs with
    | nil =>
      cases h
      exact .done
    | cons => cases h
  | succ fuel ih =>
    cases cs with
    | nil =>
      cases h
      exact .done
    | cons c r =>
      rw [scanFrom] at h
      split at h
      · rename_i us rest hstep
        obtain ⟨vs, hvs, rfl⟩ := Option.map_eq_some_iff.1 h
        exact .step hstep (ih hvs)
      · cases h

theorem Runs.exists_step {c : Char} {r : List Char} (h : Runs (c :: r) ts []) :
    ∃ us vs rest, step? (c :: r) = some (us, rest) ∧ ts = us ++ vs ∧ Runs rest vs [] := by
  cases h with
  | step hstep hrest => exact ⟨_, _, _, hstep, rfl, hrest⟩

/-- What gives no token is a blank or a comment. -/
theorem afterTrivia?_of_step? (h : step? cs = some ([], rest)) : afterTrivia? cs = some rest := by
  unfold step? at h
  split at h
  · rename_i htrivia
    cases h
    exact htrivia
  · split at h
    · simp [docTokens] at h
    · split at h
      · simp at h
      · cases h

/-- Where no token follows, a word has ended. -/
theorem endsWord_of_runs (h : Runs rest [] [])
    (hrest : ∀ c r, rest = c :: r → isIdentContinue c = false) : EndsWord rest := by
  intro c r heq
  refine ⟨hrest c r heq, ?_⟩
  subst heq
  obtain ⟨us, vs, rest, hstep, hnil, -⟩ := h.exists_step
  obtain ⟨rfl, rfl⟩ := List.append_eq_nil_iff.1 hnil.symm
  have htrivia := afterTrivia?_of_step? hstep
  intro hc
  simp only [List.mem_cons, List.not_mem_nil, or_false] at hc
  rcases hc with rfl | rfl | rfl
  all_goals cases htrivia

/-- The word of an identifier stands in front, and goes on as far as it can. -/
theorem identOf?_eq_some {raw : Bool} {cs : List Char} (h : identOf? raw cs = some (i, rest)) :
    i.raw = raw ∧ cs = i.name.toList ++ rest ∧ ∀ c r, rest = c :: r → isIdentContinue c = false := by
  unfold identOf? word? at h
  cases cs with
  | nil => cases h
  | cons c r =>
    dsimp only at h
    split at h
    · rename_i heq
      split at heq
      · cases heq
        obtain ⟨j, hj, heq⟩ := Option.map_eq_some_iff.1 h
        cases heq
        unfold Ident.ofName? at hj
        split at hj
        · cases hj
          refine ⟨rfl, ?_, fun d s hrest => ?_⟩
          · rw [String.toList_ofList, List.cons_append, List.takeWhile_append_dropWhile]
          · have hhead := List.head?_dropWhile_not isIdentContinue r
            rw [hrest] at hhead
            simpa using hhead
        · cases hj
      · cases heq
    · cases h

/-- What begins with `r#` is lexed as an identifier by the word behind that. -/
theorem identOf?_of_step? (h : step? ('r' :: '#' :: bare) = some ([.ident i], rest)) :
    identOf? true bare = some (i, rest) := by
  have htrivia : afterTrivia? ('r' :: '#' :: bare) = none := by rfl
  have hdoc : docComment? ('r' :: '#' :: bare) = none := by rfl
  have htoken : token? ('r' :: '#' :: bare) = leaf? ('r' :: '#' :: bare) := by rfl
  have hleaf : leaf? ('r' :: '#' :: bare) = some (.ident i, rest) := by
    unfold step? at h
    rw [htrivia, hdoc, htoken] at h
    dsimp only at h
    split at h
    · rename_i heq
      cases h
      exact heq
    · cases h
  have hpunct : punct? ('r' :: '#' :: bare) = none := by rfl
  unfold leaf? at hleaf
  rw [hpunct] at hleaf
  split at hleaf
  · cases hleaf
  · dsimp only at hleaf
    split at hleaf
    · cases hleaf
    · split at hleaf
      · rename_i heq
        cases hleaf
        exact heq
      · cases hleaf

/-- A text that holds an identifier behind `r#` holds the same word without. -/
theorem scan?_raw (h : TokenTree.scan? ('r' :: '#' :: bare) = some [.ident i]) :
    i.raw = true ∧
      ∃ j : Ident, j.raw = false ∧ j.name = i.name ∧ TokenTree.scan? bare = some [.ident j] := by
  have hmark : 'r' ≠ byteOrderMark := by decide
  unfold TokenTree.scan? Token.scan? at h
  rw [dropMark_of_ne hmark] at h
  dsimp only at h
  split at h
  · rename_i ts hscan
    obtain rfl := TokenTree.eq_of_nest?_ident h
    obtain ⟨us, vs, rest, hstep, hts, hrest⟩ := (runs_of_scanFrom hscan).exists_step
    rcases List.append_eq_singleton_iff.1 hts.symm with ⟨rfl, -⟩ | ⟨rfl, rfl⟩
    · cases afterTrivia?_of_step? hstep
    · obtain ⟨hraw, rfl, hend⟩ := identOf?_eq_some (identOf?_of_step? hstep)
      have hspelled : isSpelling false i.name = true := by simp [isSpelling, i.isWord_name]
      refine ⟨hraw, ⟨false, i.name, hspelled⟩, rfl, rfl, ?_⟩
      have hruns : Runs (i.name.toList ++ rest) [.ident ⟨false, i.name, hspelled⟩] [] :=
        .token (step?_plain (i := ⟨false, i.name, hspelled⟩) rfl (endsWord_of_runs hrest hend)) hrest
      obtain ⟨c, r, heq, hc, -⟩ := Text.isWord_iff.1 i.isWord_name
      rw [heq, List.cons_append] at hruns ⊢
      unfold TokenTree.scan?
      rw [Token.scan?_of_runs (Text.ne_of_isIdentStart hc (by decide +kernel)) hruns]
      rfl
  · cases h

end Lexer

theorem Ident.read?_eq_some {text : String} {i : Ident} : read? text = some i ↔
    TokenTree.scan? text.toList = some [.ident i] ∧ i.isName = true := by
  unfold read? readFragment? Reader.whole?
  constructor
  · intro h
    split at h
    · rename_i ts hscan
      split at h
      · rename_i hread
        cases h
        have hname : Reader.name ts = some (i, []) := hread
        unfold Reader.name at hname
        split at hname
        · rename_i j rest
          split at hname
          · rename_i hj
            cases hname
            exact ⟨hscan, hj⟩
          · cases hname
        · cases hname
      · cases h
    · cases h
  · rintro ⟨hscan, hname⟩
    have hread : Reader.name [.ident i] = some (i, []) := if_pos hname
    rw [hscan]
    dsimp only
    rw [hread]

end Source

/-- A word has no `r#` in front. -/
theorem Text.unraw_of_isWord {name : String} (h : Text.isWord name.toList = true) :
    Text.unraw name = name := by
  unfold Text.unraw
  split
  · rename_i r hstart
    refine absurd ?_ (Text.not_mem_of_isWord (d := '#') h)
    rw [Text.afterStart?_eq_some.1 hstart]
    simp
  · rfl

namespace Source

/-- The name, less one `r#`, holds one word and nothing else but blanks and comments, and the identifier is
that word: raw where it is spelled raw there, or is reserved. -/
def Ident.IsNamed (i : Ident) (name : String) : Prop :=
  ∃ j : Ident, TokenTree.scan? (Text.unraw name).toList = some [.ident j] ∧ i.name = j.name ∧
    i.raw = (j.raw || reservedWords.contains j.name)

/-- Where the name is a word, that word is written, and raw where it is reserved. -/
theorem Ident.isNamed_word {i : Ident} {name : String} (h : Text.isWord name.toList = true) :
    i.IsNamed name ↔ i.name = name ∧ i.raw = reservedWords.contains name := by
  have hspelled : isSpelling false name = true := by simp [isSpelling, h]
  have hscan : TokenTree.scan? name.toList = some [.ident ⟨false, name, hspelled⟩] := by
    have hpath := scan?_path ⟨false, name, hspelled⟩ []
    rwa [segmentChars, List.flatMap_nil, List.append_nil] at hpath
  unfold IsNamed
  rw [Text.unraw_of_isWord h, hscan]
  constructor
  · rintro ⟨j, hj, hname, hraw⟩
    cases hj
    exact ⟨hname, by simpa using hraw⟩
  · rintro ⟨hname, hraw⟩
    exact ⟨_, rfl, hname, by simpa using hraw⟩

end Source

open Source

theorem identFor_ok {name : String} {i : Ident} (h : identFor name = .ok i) :
    i.IsNamed name ∧ i.isName = true := by
  unfold identFor at h
  dsimp only at h
  split at h
  · rename_i hread
    cases h
    obtain ⟨hscan, hname⟩ := Ident.read?_eq_some.1 hread
    refine ⟨⟨i, hscan, rfl, ?_⟩, hname⟩
    unfold Ident.isName at hname
    cases hraw : i.raw with
    | true => rfl
    | false => simpa [hraw] using hname
  · rename_i hnone
    split at h
    · rename_i hread
      cases h
      obtain ⟨hscan, hname⟩ := Ident.read?_eq_some.1 hread
      have hsplit : ("r#" ++ Text.unraw name).toList = 'r' :: '#' :: (Text.unraw name).toList := by simp
      rw [hsplit] at hscan
      obtain ⟨hraw, j, hplain, hname', hbare⟩ := Lexer.scan?_raw hscan
      -- the word alone has not been read, so it is reserved
      have hreserved : j.isName = false := by
        refine Bool.eq_false_iff.2 fun hj => ?_
        rw [Ident.read?_eq_some.2 ⟨hbare, hj⟩] at hnone
        cases hnone
      refine ⟨⟨j, hbare, hname'.symm, ?_⟩, hname⟩
      simpa [Ident.isName, hplain, hraw] using hreserved
    · cases h

end DisplayGen
