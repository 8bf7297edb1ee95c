import DisplayGen.Crate
import DisplayGen.Emission.Code
import DisplayGen.Emission.Header
import DisplayGen.Emission.Tally

/-!
# Emission

Emitting a summary renders its code under a header, and counts the generation. The count stands on
the first line, so the rest of the text depends on the summary alone.
-/

namespace DisplayGen

/-- The line that tells how often a text has been generated. -/
def countLine (n : Nat) : String := s!"// Generation count: {n}"

/-- The text of a generated file. -/
def artifactText (count : Nat) (code : DisplayCode) : String :=
  countLine count ++ "\n" ++ generatedHeader ++ "\n" ++ code.render

/-- Generates for a summary, and counts it if that succeeds. -/
def emit (extension : String) (tally : Tally) (s : Summary) :
    Except GenerationError (Artifact × Tally) := do
  let code ← DisplayCode.ofSummary s
  let tally := tally.increment s.key
  return (⟨s.artifactName extension, s.modulePath, artifactText (tally.get s.key) code⟩, tally)

end DisplayGen
