import DisplayGen.Proofs.Emission
import DisplayGen.Proofs.Source.Lexer.Comment

/-!
# Texts up to their counts

`Text.UpToCount s t`: the texts are the same, or they differ in the count that their first lines tell. As that
line is a comment, they are read as the same file (`UpToCount.read?_eq`).
-/

namespace DisplayGen

/-- A line that tells a count is read like an empty one. -/
theorem Source.File.read?_countLine (count : Nat) (rest : String) :
    read? (countLine count ++ "\n" ++ rest) = read? ("\n" ++ rest) := by
  rw [countLine_eq, read?_comment (newline_not_mem_count count)]

/-- The texts are the same, or both begin with a line that tells a count, and what follows is the same. -/
inductive Text.UpToCount : String → String → Prop where
  | refl (s : String) : UpToCount s s
  | counts (m n : Nat) (rest : String) :
      UpToCount (countLine m ++ "\n" ++ rest) (countLine n ++ "\n" ++ rest)

namespace Text.UpToCount

variable {s t : String}

theorem symm (h : UpToCount s t) : UpToCount t s := by
  cases h with
  | refl => exact .refl s
  | counts m n rest => exact .counts n m rest

theorem read?_eq (h : UpToCount s t) : Source.File.read? s = Source.File.read? t := by
  cases h with
  | refl => rfl
  | counts m n rest => rw [Source.File.read?_countLine, Source.File.read?_countLine]

/-- What is generated for one code differs in its count only. -/
theorem artifactText (m n : Nat) (code : DisplayCode) :
    UpToCount (artifactText m code) (artifactText n code) := by
  rw [artifactText_eq, artifactText_eq]
  exact .counts m n _

end Text.UpToCount

end DisplayGen
