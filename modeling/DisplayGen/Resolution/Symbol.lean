import DisplayGen.Text.Split

/-!
# Symbols

The identity of what a path names.
-/

namespace DisplayGen

/-- What a path names: the crate that it comes from, and its path in that crate. -/
structure Symbol where
  crate : String
  path : List String
  deriving DecidableEq, Repr, Inhabited

namespace Symbol

/-- What further segments name below a symbol, as written. -/
def join (s : Symbol) (segments : List String) : Symbol := { s with path := s.path ++ segments }

/-- A symbol as a path with the name of its crate in front. -/
def toPath (s : Symbol) : String := Text.joinPath (s.crate :: s.path)

end Symbol

end DisplayGen
