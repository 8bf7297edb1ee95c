import DisplayGen.Source.Grammar.Type
import DisplayGen.Source.Number

/-!
# Patterns

`pattern r` reads a pattern without alternatives at its top, `patterns r` one that may have them.
-/

namespace DisplayGen.Source.Grammar

open Reader

/-- A bar between alternatives, and not part of a longer operator. -/
def barFollows (ts : List TokenTree) : Bool :=
  Peek.op "|" ts && !Peek.op "||" ts && !Peek.op "|=" ts

/-- Alternatives; `leading` says that a bar stands in front of the first one. -/
def alternatives (r : Rules) (leading : Bool) : Reader Tree := do
  let first ← r.pattern
  let more ← repeatedly barFollows (do op "|"; r.pattern)
  if leading || !more.isEmpty then return .form .orPattern (first :: more) else return first

/-- A pattern with alternatives, of which the first may have a bar in front of it. -/
def patterns (r : Rules) : Reader Tree := do alternatives r (← op? "|")

/-- The position of a field, written as a number. -/
def position : Reader Tree := do
  match ← pending with
  | .literal l :: _ =>
    if l.kind == .number && (position? l.text).isSome then
      let _ ← literal
      return .leaf (.literal l)
    else reject
  | _ => reject

/-- A pattern ends here, so that a range has no further bound. -/
def endsRange (ts : List TokenTree) : Bool :=
  ts.isEmpty || Peek.anyOp ["|", "=", ",", ";"] ts || (Peek.op ":" ts && !Peek.op "::" ts) ||
    Peek.word "if" ts

/-- A constant block: its attributes and the block. -/
def constBlock (r : Rules) : Reader Tree := do
  word "const"
  let (attributes, block) ← bodyBlock r
  return .form .constBlock [.list attributes, block]

/-- A bound of a range pattern. -/
def rangeBound (r : Rules) : Reader Tree := do
  if ← sees Peek.literal then return .form .literalPattern (← literalLeaves)
  else if ← sees (fun ts => Peek.name ts || Peek.op "::" ts || Peek.op "<" ts ||
      ["self", "Self", "super", "crate"].any (Peek.word · ts)) then
    return .form .pathPattern (← qualifiedPath r true)
  else return .form .constPattern [← constBlock r]

/-- The operator of a range. The obsolete `...` is admitted where `obsolete` says so. -/
def rangeOperator (obsolete : Bool) : Reader String := do
  if ← op? "..=" then return "..="
  else if ← sees (Peek.op "...") then
    if obsolete then
      op "..."
      return "..="
    else reject
  else
    op ".."
    return ".."

/-- The rest of a range pattern after its lower bound: both bounds stand around the operator. -/
def rangeFrom (r : Rules) (start : Tree) : Reader Tree := do
  let o ← rangeOperator true
  if ← sees endsRange then
    if o = ".." then return .form .rangePattern [.list [start], .operator o, .list []] else reject
  else
    return .form .rangePattern [.list [start], .operator o, .list [← rangeBound r]]

/-- A range pattern without lower bound, or the rest of a sequence. -/
def rangeTo (r : Rules) : Reader Tree := do
  let o ← rangeOperator false
  if ← sees endsRange then
    if o = ".." then return .form .restPattern [.list []] else reject
  else
    return .form .rangePattern [.list [], .operator o, .list [← rangeBound r]]

/-- A name bound to a value: whether by reference, whether mutable, the name, and a pattern that the
value has to match too. -/
def bindingOf (byRef mutable : Tree) (i : Ident) (sub : Tree) : Tree :=
  .form .identPattern [byRef, mutable, .ident i, sub]

/-- A field of a struct pattern: its attributes, its name or position, and its pattern. The name is
left out if the field is bound to a name of its own. -/
def structPatternField (r : Rules) (attributes : List Tree) : Reader Tree := do
  let field (member : List Tree) (p : Tree) : Tree :=
    .form .fieldPattern [.list attributes, .list member, p]
  let boxed ← word? "box"
  let byRef ← wordPart "ref"
  let mutable ← wordPart "mut"
  if boxed || !byRef.isAbsent || !mutable.isAbsent then
    let i ← name
    if boxed then return field [] .uninterpreted
    else return field [] (bindingOf byRef mutable i (.list []))
  else if ← sees Peek.name then
    let i ← name
    if ← op? ":" then return field [.ident i] (← patterns r)
    else return field [] (bindingOf (.list []) (.list []) i (.list []))
  else
    let n ← position
    op ":"
    return field [n] (← patterns r)

/-- The fields of a struct pattern, at most `fuel` of them, and the sign for further ones. -/
def structPatternFieldsFrom (r : Rules) : Nat → Reader (List Tree × List Tree)
  | 0 => reject
  | fuel + 1 => do
    if ← atEnd then return ([], [])
    let attributes ← outerAttributes r
    if ← op? ".." then return ([], [.form .restPattern [.list attributes]])
    let f ← structPatternField r attributes
    if ← atEnd then return ([f], [])
    op ","
    let (fs, rest) ← structPatternFieldsFrom r fuel
    return (f :: fs, rest)

/-- The fields of a struct pattern. -/
def structPatternFields (r : Rules) : Reader (List Tree × List Tree) := fun ts =>
  structPatternFieldsFrom r (ts.length + 1) ts

/-- The parts are a single path without arguments, and a macro call may begin with them. -/
def isSimpleParts : List Tree → Bool
  | [p] => isSimplePath p
  | _ => false

/-- The sign of a macro call, and not the beginning of a comparison. -/
def callSignFollows (ts : List TokenTree) : Bool := Peek.op "!" ts && !Peek.op "!=" ts

/-- The path, macro, struct or range that begins with a path. A struct has the parts of its path,
its fields or elements, and the sign for further fields. -/
def patternFromPath (r : Rules) : Reader Tree := do
  let parts ← qualifiedPath r true
  if isSimpleParts parts && (← sees callSignFollows) then
    op "!"
    let (d, ts) ← anyGroup
    return .form .macroPattern (parts ++ [.tokens d ts])
  else if ← sees (Peek.group .brace) then
    let (fields, rest) ← inside .brace (structPatternFields r)
    return .form .structPattern [.list parts, .list fields, .list rest]
  else if ← sees (Peek.group .paren) then
    return .form .tupleStructPattern [.list parts, .list (← inside .paren (commas (patterns r)))]
  else if ← sees (Peek.op "..") then rangeFrom r (.form .pathPattern parts)
  else return .form .pathPattern parts

/-- A name bound to a value. -/
def identPattern (r : Rules) : Reader Tree := do
  let byRef ← wordPart "ref"
  let mutable ← wordPart "mut"
  let i ← if ← sees (Peek.word "self") then anyWord else name
  return bindingOf byRef mutable i (← partAfter "@" r.pattern)

/-- A literal, a constant block, or a range that begins with one. -/
def literalOrRange (r : Rules) : Reader Tree := do
  guarded fun ts => !endsRange ts
  let start ← rangeBound r
  if ← sees (Peek.op "..") then rangeFrom r start else return start

/-- A tuple of patterns: its elements, and the comma behind the last of them. -/
def tuplePatternOf (elements : List Tree) (trailing : Bool) : Tree :=
  .form .tuplePattern [.list elements, .list (if trailing then [.punct ','] else [])]

/-- A pattern in round brackets, or a tuple. -/
def parenPattern (r : Rules) : Reader Tree :=
  inside .paren (do
    if ← atEnd then return tuplePatternOf [] false
    else
      let first ← patterns r
      if ← atEnd then
        if first.isForm .restPattern then return tuplePatternOf [first] false
        else return .form .parenPattern [first]
      else
        op ","
        let more ← commas (patterns r)
        return tuplePatternOf (first :: more) more.isEmpty)

/-- A range that lacks one of its bounds. -/
def isOpenRange : Tree → Bool
  | .form .rangePattern [start, _, stop] => start.isAbsent || stop.isAbsent
  | _ => false

/-- A sequence of patterns; a range with one bound alone needs brackets there. -/
def slicePattern (r : Rules) : Reader Tree := do
  let elements ← inside .bracket (commas (do
    let p ← patterns r
    if isOpenRange p then reject else return p))
  return .form .slicePattern elements

/-- A path follows, and not a name alone. -/
def pathPatternFollows (ts : List TokenTree) : Bool :=
  (Peek.name ts && Peek.second (fun us => Peek.op "::" us || Peek.op "!" us || Peek.group .brace us ||
      Peek.group .paren us || Peek.op ".." us) ts) ||
    (Peek.word "self" ts && Peek.second (Peek.op "::") ts) || Peek.op "::" ts || Peek.op "<" ts ||
    ["Self", "super", "crate"].any (Peek.word · ts)

/-- A pattern without alternatives at its top. -/
def pattern (r : Rules) : Reader Tree := do
  if ← sees pathPatternFollows then patternFromPath r
  else if ← word? "_" then return .form .wildPattern []
  else if ← word? "box" then
    let _ ← r.pattern
    return .uninterpreted
  else if ← sees (fun ts => Peek.op "-" ts || Peek.literal ts || Peek.word "const" ts) then
    literalOrRange r
  else if ← sees (fun ts => Peek.word "ref" ts || Peek.word "mut" ts || Peek.word "self" ts ||
      Peek.name ts) then
    identPattern r
  else if ← op? "&" then
    let m ← wordPart "mut"
    return .form .referencePattern [m, ← r.pattern]
  else if ← sees (Peek.group .paren) then parenPattern r
  else if ← sees (Peek.group .bracket) then slicePattern r
  else if ← sees (fun ts => Peek.op ".." ts && !Peek.op "..." ts) then rangeTo r
  else reject

end DisplayGen.Source.Grammar
