import DisplayGen.Source.File

/-!
# Reading by computation

A text that is fixed but for a name in it is read by computation up to the name. The lemmas here carry a
reading over such a place: `Reader.bind_of_eq` goes on behind a part whose reading is known, and
`Grammar.type_name` reads a name where a type is expected. `File.read?_of_item` puts a file together.
-/

namespace DisplayGen.Source

theorem Ident.isWord_eq_false {i : Ident} {w : String} (h : i.isName = true) (hw : w ∈ reservedWords) :
    i.isWord w = false := by
  unfold isName at h
  unfold isWord
  cases hraw : i.raw with
  | true => rfl
  | false =>
    rw [hraw, Bool.false_or] at h
    rw [Bool.not_false, Bool.true_and, beq_eq_false_iff_ne]
    rintro rfl
    simp [hw] at h

namespace Reader

variable {α β : Type} {p : Reader α} {f : α → Reader β} {q : List TokenTree → Bool} {ts r : List TokenTree}
  {a : α}

theorem bind_of_eq (h : p ts = some (a, r)) : (p >>= f) ts = f a r := by
  change (p ts).bind (fun x => f x.1 x.2) = _
  rw [h]
  rfl

theorem sees_of_no {p p' : Reader α} (h : q ts = false) :
    (do if ← sees q then p else p') ts = p' ts := by
  rw [bind_of_eq (a := false) (r := ts) (by rw [sees, h])]
  rfl

theorem sees_of_yes {p p' : Reader α} (h : q ts = true) :
    (do if ← sees q then p else p') ts = p ts := by
  rw [bind_of_eq (a := true) (r := ts) (by rw [sees, h])]
  rfl

/-- A reader that takes all there is reads it once. -/
theorem repeatedly_once (hts : ts ≠ []) (h : p ts = some (a, [])) :
    repeatedly (fun ts => !ts.isEmpty) p ts = some ([a], []) := by
  obtain ⟨t, ts, rfl⟩ := List.exists_cons_of_ne_nil hts
  have hnone : repeatedlyFrom (fun ts => !ts.isEmpty) p (ts.length + 1) [] = some ([], []) := rfl
  refine Eq.trans (b := (p (t :: ts)).bind fun x =>
    (repeatedlyFrom (fun ts => !ts.isEmpty) p (ts.length + 1) x.2).bind fun y =>
      some (x.1 :: y.1, y.2)) rfl ?_
  rw [h, Option.bind_some, hnone]
  rfl

end Reader

open Reader

/-! ## Types -/

namespace Grammar

variable {i : Ident} {content : List TokenTree} {r : Rules}

/-! A name in front of braces is read as a segment, as a path and as a type. -/

theorem isWord_name (h : i.isName = true) {w : String} (hw : w ∈ reservedWords) :
    Peek.word w [.ident i, .group .brace content] = false :=
  Ident.isWord_eq_false h hw

theorem binder?_name (h : i.isName = true) : binder? r [.ident i, .group .brace content] =
    some (.list [], [.ident i, .group .brace content]) := by
  have hfor : word? "for" [.ident i, .group .brace content] =
      some (false, [.ident i, .group .brace content]) := by
    have hnone : Reader.word "for" [.ident i, .group .brace content] = none :=
      if_neg (Bool.eq_false_iff.1 (Ident.isWord_eq_false h (by decide)))
    rw [word?, hnone]
  exact bind_of_eq hfor

theorem segment_name (h : i.isName = true) : segment r false [.ident i, .group .brace content] =
    some (.form .segment [.ident i], [.group .brace content]) := by
  have hname : name [.ident i, .group .brace content] = some (i, [.group .brace content]) := if_pos h
  unfold segment
  rw [sees_of_no]
  · dsimp only
    rw [sees_of_no (isWord_name h (by decide)), bind_of_eq hname]
    rfl
  · rw [isWord_name h (by decide), isWord_name h (by decide), isWord_name h (by decide),
      isWord_name h (by decide)]
    rfl

theorem path_name (h : i.isName = true) : path r false [.ident i, .group .brace content] =
    some (.form .path [.form .segment [.ident i]], [.group .brace content]) := by
  unfold path
  rw [bind_of_eq (a := false) (r := [.ident i, .group .brace content]) rfl, bind_of_eq (segment_name h)]
  rfl

theorem pathType_name (h : i.isName = true) (plus : Bool) :
    pathType r plus (.list []) [.ident i, .group .brace content] =
      some (.form .pathType [.form .path [.form .segment [.ident i]]], [.group .brace content]) := by
  have hqualified : qualifiedPath r false [.ident i, .group .brace content] =
      some ([.form .path [.form .segment [.ident i]]], [.group .brace content]) := by
    unfold qualifiedPath
    rw [bind_of_eq (a := false) (r := [.ident i, .group .brace content]) rfl]
    exact bind_of_eq (path_name h)
  unfold pathType
  rw [bind_of_eq hqualified]
  cases plus
  all_goals rfl

/-- A name in front of braces, where a type is expected, is the path of that name alone. -/
theorem type_name (h : i.isName = true) (r : Rules) (plus : Bool) (content : List TokenTree) :
    type r plus [.ident i, .group .brace content] =
      some (.form .pathType [.form .path [.form .segment [.ident i]]], [.group .brace content]) := by
  have hpeek : Peek.name [.ident i, .group .brace content] = true := h
  have hparen : Peek.group .paren [.ident i, .group .brace content] = false := rfl
  -- no question before the one for a path is answered yes
  unfold type
  rw [bind_of_eq (binder?_name h)]
  refine Eq.trans (sees_of_no hparen) ?_
  rw [sees_of_no, sees_of_no, sees_of_yes, pathType_name h]
  · rw [hpeek]
    rfl
  · exact Bool.and_false _
  · rw [isWord_name h (by decide), isWord_name h (by decide), isWord_name h (by decide)]
    rfl

end Grammar

/-! ## Files -/

/-- The rules for a file that is not empty admit that something is nested in something. -/
theorem Grammar.exists_rulesFor {ts : List TokenTree} (hts : ts ≠ []) :
    ∃ n, rulesFor ts = rulesAt (n + 2) := by
  obtain ⟨t, ts, rfl⟩ := List.exists_cons_of_ne_nil hts
  have hsize : 1 ≤ t.size := by
    cases t
    all_goals simp [TokenTree.size]
  refine ⟨t.size - 1 + TokenTree.sizeAll ts, congrArg rulesAt ?_⟩
  rw [TokenTree.sizeAll]
  omega

/-- A file that is one item. -/
theorem File.read?_of_item {text : String} {ts : List TokenTree} {t : Tree}
    (hfirst : dropInterpreter (Lexer.dropMark text.toList) = text.toList)
    (hscan : TokenTree.scan? text.toList = some ts) (hts : ts ≠ [])
    (hinner : Grammar.innerAttributes (Grammar.rulesFor ts) ts = some ([], ts))
    (hitem : Grammar.item (Grammar.rulesFor ts) ts = some (t, [])) : read? text = some ⟨[], [t]⟩ := by
  have hitems : Grammar.itemsOf (Grammar.rulesFor ts) (Grammar.item (Grammar.rulesFor ts)) ts =
      some (([], [t]), []) := by
    unfold Grammar.itemsOf
    rw [bind_of_eq hinner, bind_of_eq (repeatedly_once hts hitem)]
    rfl
  unfold read?
  rw [hfirst, hscan]
  dsimp only
  unfold ofTokens? whole?
  dsimp only
  rw [hitems]

end DisplayGen.Source
