import DisplayGen.Error
import DisplayGen.Source.Printer

/-!
# Formatting

Tokens that make a source file are written out as its text, unless part of the file is not
interpreted.
-/

namespace DisplayGen

open Source

/-- The text of the source file that tokens make. The name of the unit is for the error. -/
def formatTokens (unit : String) (ts : List TokenTree) : Except GenerationError String :=
  match File.ofTokens? ts with
  | some file =>
    match file.print? with
    | some text => .ok text
    | none => .error (.unprintable unit)
  | none => .error (.unparsable unit)

end DisplayGen
