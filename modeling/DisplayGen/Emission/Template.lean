import DisplayGen.Summary

/-!
# Templates

The generated output of a value is `label:value` for each public field, joined by `; `. A template
holds the labels.
-/

namespace DisplayGen

/-- The labels of a generated output: the names of the fields, not raw. -/
structure Template where
  labels : List String
  deriving DecidableEq, Repr, Inhabited

namespace Template

/-- The template of a summary. -/
def ofSummary (s : Summary) : Template := ⟨s.memberNames.map Text.unraw⟩

/-- A label with a place for its value. -/
def slot (label : String) : String := label ++ ":\x7b\x7d"

/-- The template as a format string, with a place for each value. -/
def formatString (t : Template) : String := Text.joinWith "; " (t.labels.map slot)

end Template

end DisplayGen
