import DisplayGen.Source.Tree

/-!
# Paths as written

A `WrittenPath` is what name resolution sees of a path: the names of its segments, without the `r#`
of raw ones and without arguments.
-/

namespace DisplayGen.Source

/-- A path as written: its names, and whether `::` stands before the first. -/
structure WrittenPath where
  leadingColon : Bool
  segments : List String
  deriving DecidableEq, Repr, Inhabited

/-- The path as name resolution sees it. -/
def SimplePath.toWritten (p : SimplePath) : WrittenPath := ⟨p.leadingColon, p.segments.map (·.name)⟩

/-- The name of a path segment. -/
def Tree.segmentName? : Tree → Option String
  | .node (.form .segment) (.leaf (.ident i) :: _) => some i.name
  | _ => none

/-- The tree of a path as name resolution sees it. -/
def Tree.toWritten : Tree → WrittenPath
  | .node (.form .path) (.leaf (.punct ':' _) :: segments) => ⟨true, segments.filterMap segmentName?⟩
  | .node (.form .path) segments => ⟨false, segments.filterMap segmentName?⟩
  | _ => ⟨false, []⟩

end DisplayGen.Source
