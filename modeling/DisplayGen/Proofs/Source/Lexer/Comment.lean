import DisplayGen.Proofs.Source.Lexer.Follows
import DisplayGen.Source.File

/-!
# A comment in front of a file

A line comment at the beginning of a text is lexed away, whatever stands in it, and the rest is read
as if it stood alone (`read?_comment`).
-/

namespace DisplayGen.Source

namespace Lexer

variable {line : List Char}

theorem splitLine_append (h : '\n' ∉ line) (rest : List Char) :
    (splitLine (line ++ '\n' :: rest)).2 = '\n' :: rest := by
  have hline : ∀ c ∈ line, decide (c ≠ '\n') = true := by
    intro c hc
    have hne : c ≠ '\n' := fun heq => h (heq ▸ hc)
    simpa using hne
  unfold splitLine
  rw [List.dropWhile_append_of_pos hline]
  simp

theorem afterTrivia?_comment (h : '\n' ∉ line) (rest : List Char) :
    afterTrivia? ('/' :: '/' :: ' ' :: (line ++ '\n' :: rest)) = some ('\n' :: rest) := by
  have hline : '\n' ∉ ' ' :: line := by simpa using h
  have hsplit := splitLine_append hline rest
  have hstep : afterTrivia? ('/' :: '/' :: ' ' :: (line ++ '\n' :: rest)) =
      some (splitLine (' ' :: line ++ '\n' :: rest)).2 := rfl
  rw [hstep, hsplit]

theorem scanFrom_comment (h : '\n' ∉ line) (rest : List Char) (fuel : Nat) :
    scanFrom (fuel + 1) ('/' :: '/' :: ' ' :: (line ++ '\n' :: rest)) = scanFrom fuel ('\n' :: rest) := by
  rw [scanFrom, step?, afterTrivia?_comment h]
  simp

theorem dropMark_of_ne {c : Char} (h : c ≠ byteOrderMark) (r : List Char) :
    dropMark (c :: r) = c :: r := if_neg h

end Lexer

open Lexer

theorem Token.scan?_comment {line : List Char} (h : '\n' ∉ line) (rest : List Char) :
    Token.scan? ('/' :: '/' :: ' ' :: (line ++ '\n' :: rest)) = Token.scan? ('\n' :: rest) := by
  have hlength : ('/' :: '/' :: ' ' :: (line ++ '\n' :: rest)).length =
      (line.length + rest.length + 3) + 1 := by
    simp only [List.length_cons, List.length_append]
    omega
  unfold Token.scan?
  rw [dropMark_of_ne (by decide), dropMark_of_ne (by decide)]
  dsimp only
  rw [hlength, scanFrom_comment h]
  exact scanFrom_eq (by simp only [List.length_cons]; omega) (Nat.le_refl _)

namespace File

theorem read?_comment {line : String} (h : '\n' ∉ line.toList) (rest : String) :
    read? ("// " ++ line ++ "\n" ++ rest) = read? ("\n" ++ rest) := by
  have hcomment : ("// " ++ line ++ "\n" ++ rest).toList =
      '/' :: '/' :: ' ' :: (line.toList ++ '\n' :: rest.toList) := by simp
  have hbreak : ("\n" ++ rest).toList = '\n' :: rest.toList := by simp
  unfold read? TokenTree.scan?
  rw [hcomment, hbreak, dropMark_of_ne (by decide), dropMark_of_ne (by decide)]
  have hplain : dropInterpreter ('/' :: '/' :: ' ' :: (line.toList ++ '\n' :: rest.toList)) =
      '/' :: '/' :: ' ' :: (line.toList ++ '\n' :: rest.toList) := by simp [dropInterpreter]
  have hplain' : dropInterpreter ('\n' :: rest.toList) = '\n' :: rest.toList := by
    simp [dropInterpreter]
  rw [hplain, hplain', Token.scan?_comment h]

end File

end DisplayGen.Source
