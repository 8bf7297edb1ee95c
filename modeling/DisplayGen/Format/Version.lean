import DisplayGen.Text.Chars
import DisplayGen.Text.Split

/-!
# Versions

A version is three numbers with points between them, `1.2.3`. Behind them may stand the name of a
preview, after a minus, and the name of a build, after a plus; these are identifiers with points
between them.
-/

namespace DisplayGen.Format

open DisplayGen.Text

/-- A number without a needless zero in front. -/
def isPlainNumber (cs : List Char) : Bool :=
  match cs with
  | [] => false
  | ['0'] => true
  | '0' :: _ => false
  | _ => cs.all isAsciiDigit

/-- An identifier in the name of a build. -/
def isBuildName (cs : List Char) : Bool :=
  !cs.isEmpty && cs.all fun c => isAsciiLetter c || isAsciiDigit c || c == '-'

/-- An identifier in the name of a preview: if it is a number, it has no needless zero in front. -/
def isPreviewName (cs : List Char) : Bool :=
  isBuildName cs && (!cs.all isAsciiDigit || isPlainNumber cs)

/-- The text is a version. -/
def isVersion (s : String) : Bool :=
  let cs := s.toList
  let numbers := cs.takeWhile fun c => c ≠ '-' && c ≠ '+'
  let rest := cs.drop numbers.length
  let preview := rest.takeWhile (· ≠ '+')
  let build := rest.drop preview.length
  (splitAtChar '.' numbers).length = 3 && (splitAtChar '.' numbers).all isPlainNumber &&
    (preview.isEmpty || (splitAtChar '.' (preview.drop 1)).all isPreviewName) &&
    (build.isEmpty || (splitAtChar '.' (build.drop 1)).all isBuildName)

end DisplayGen.Format
