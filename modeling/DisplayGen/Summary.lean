import DisplayGen.Text.Split

/-!
# Summaries

A summary is all that the generated code of a type depends on: where the type is declared, its name,
and its public fields in order. Equal summaries make equal code.
-/

namespace DisplayGen

/-- What is generated for: the path of a module with the name of its crate, the name of a type in
it, and the names of the public fields as written. -/
structure Summary where
  namespaceName : String
  typeName : String
  memberNames : List String
  deriving DecidableEq, Repr, Inhabited

namespace Summary

/-- The key of a type: its qualified name with points. -/
def key (s : Summary) : String := Text.dotted s.namespaceName ++ "." ++ s.typeName

/-- The name of the file that is generated for a type. -/
def artifactName (s : Summary) (extension : String) : String := s.key ++ ".g." ++ extension

/-- The module of the type, below the crate. -/
def modulePath (s : Summary) : List String := (Text.splitPath s.namespaceName).drop 1

end Summary

end DisplayGen
