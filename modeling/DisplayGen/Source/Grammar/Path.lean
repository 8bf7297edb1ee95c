import DisplayGen.Source.Grammar.Attribute

/-!
# Paths, bounds and generics

Paths with their arguments, the bounds of types, and the generic parameters and conditions of items.
In an expression the arguments of a segment need `::` in front of them (`turbofish`).
-/

namespace DisplayGen.Source.Grammar

open Reader

/-- A body between braces: the attributes at its beginning, and its statements as a block. -/
def bodyBlock (r : Rules) : Reader (List Tree × Tree) :=
  inside .brace (do
    let attributes ← innerAttributes r
    let statements ← r.statements
    return (attributes, .node .block statements))

/-- A block without attributes of its own. -/
def plainBlock (r : Rules) : Reader Tree :=
  inside .brace (do return .node .block (← r.statements))

/-- A block as an expression: its attributes, its label, and the block. -/
def blockOf (attributes : List Tree) (label block : Tree) : Tree :=
  .form .blockExpr [.list attributes, label, block]

/-- A constant in the place of a generic argument. -/
def constArgument (r : Rules) : Reader Tree := do
  if ← sees Peek.literal then return .form .literalExpr (← literalLeaves)
  else if ← sees Peek.name then
    return .form .pathExpr [.form .path [.form .segment [.ident (← name)]]]
  else
    let (attributes, block) ← bodyBlock r
    return blockOf attributes (.list []) block

/-- The bounds after the colon of `name: bounds` among generic arguments. -/
def argumentBounds (r : Rules) : Reader (List Tree) :=
  linked (Peek.anyOp [",", ">"]) (r.bound false true) "+"

/-- A type that is one segment: its name and generic arguments. -/
def loneSegment? : Tree → Option (Tree × Tree)
  | .form .pathType [.form .path [.form .segment (.ident i :: args)]] => some (.ident i, .list args)
  | _ => none

/-- A generic argument: a lifetime, constant or type, or what an associated type or constant is. -/
def genericArgument (r : Rules) : Reader Tree := do
  if ← sees (fun ts => Peek.lifetime ts && !Peek.second (Peek.op "+") ts) then
    return .lifetime (← lifetime)
  else if ← sees (fun ts => Peek.literal ts || Peek.group .brace ts) then constArgument r
  else
    let type ← r.type true
    match loneSegment? type with
    | none => return type
    | some (name, args) =>
      if ← op? "=" then
        if ← sees (fun ts => Peek.literal ts || Peek.group .brace ts) then
          return .form .assocConst [name, args, ← constArgument r]
        else return .form .assocType [name, args, ← r.type true]
      else if ← op? ":" then return .form .assocBound [name, args, .list (← argumentBounds r)]
      else return type

/-- Generic arguments between angle brackets, with the `::` that may stand before them. -/
def angleArgs (r : Rules) : Reader Tree := do
  let _ ← op? "::"
  op "<"
  let args ← separated (Peek.op ">") (genericArgument r) ","
  op ">"
  return .form .angleArgs args

/-- A result type, if an arrow comes next. -/
def returnType (r : Rules) (plus : Bool) : Reader Tree := partAfter "->" (r.type plus)

/-- The argument types of a function's bound, with its result type. -/
def parenArgs (r : Rules) : Reader Tree := do
  let inputs ← inside .paren (commas (r.type true))
  return .form .parenArgs [.list inputs, ← returnType r false]

/-- A segment of a path: its name, and its arguments if it has any. -/
def segment (r : Rules) (turbofish : Bool) : Reader Tree := do
  if ← sees (fun ts => Peek.word "super" ts || Peek.word "self" ts || Peek.word "crate" ts ||
      Peek.word "try" ts) then
    return .form .segment [.ident (← anyWord)]
  else
    let i ← if ← sees (Peek.word "Self") then anyWord else name
    if ← sees (fun ts => (!turbofish && Peek.op "<" ts && !Peek.op "<=" ts && !Peek.op "<<=" ts) ||
        (Peek.op "::" ts && Peek.third (Peek.op "<") ts)) then
      return .form .segment [.ident i, ← angleArgs r]
    else return .form .segment [.ident i]

/-- The further segments of a path. A `::` before round brackets does not belong to it. -/
def moreSegments (r : Rules) (turbofish : Bool) : Reader (List Tree) :=
  repeatedly (fun ts => Peek.op "::" ts && !Peek.third (Peek.group .paren) ts) (do
    op "::"
    segment r turbofish)

/-- A path: its segments, and before them a leaf for its leading `::`. -/
def path (r : Rules) (turbofish : Bool) : Reader Tree := do
  let leading ← op? "::"
  let first ← segment r turbofish
  let more ← moreSegments r turbofish
  return .form .path ((if leading then [.punct ':'] else []) ++ first :: more)

/-- A path that may begin with a qualified type: then the type, and the trait as which it is seen,
come before the path. -/
def qualifiedPath (r : Rules) (turbofish : Bool) : Reader (List Tree) := do
  if ← op? "<" then
    let type ← r.type true
    let ofTrait ← if ← word? "as" then pure [← path r false] else pure []
    op ">"
    op "::"
    let first ← segment r turbofish
    let more ← repeatedly (Peek.op "::") (do op "::"; segment r turbofish)
    return [.form .qualifiedSelf [type, .list ofTrait], .form .path (first :: more)]
  else return [← path r turbofish]

/-- The segment has no arguments. -/
def isBareSegment : Tree → Bool
  | .form .segment children => children.length == 1
  | _ => true

/-- The path has no arguments anywhere. -/
def isSimplePath : Tree → Bool
  | .form .path children => children.all isBareSegment
  | _ => false

/-- The last segment of a path has no arguments. -/
def endsBare : Tree → Bool
  | .form .path children =>
    match children.getLast? with
    | some s => isBareSegment s
    | none => false
  | _ => false

/-- Gives the last segment of a path its arguments. -/
def withLastArgs (args : Tree) : Tree → Tree
  | .form .path children =>
    match children.reverse with
    | .form .segment c :: before => .form .path ((.form .segment (c ++ [args]) :: before).reverse)
    | _ => .form .path children
  | t => t

/-- Round brackets follow, perhaps after `::`. -/
def parenArgsFollow (ts : List TokenTree) : Bool :=
  Peek.group .paren ts || (Peek.op "::" ts && Peek.third (Peek.group .paren) ts)

/-- The bounds of a lifetime. -/
def lifetimeBounds (stop : List TokenTree → Bool) : Reader (List Tree) :=
  linked stop (do return .lifetime (← lifetime)) "+"

/-- A lifetime parameter: its attributes, its name, and its bounds. -/
def lifetimeParam (attributes : List Tree) : Reader Tree := do
  let l ← lifetime
  let bounds ←
    if ← op? ":" then lifetimeBounds (fun ts => ts.isEmpty || Peek.anyOp [",", ">"] ts) else pure []
  return .form .lifetimeParam [.list attributes, .lifetime l, .list bounds]

/-- A type parameter: its attributes, its name, its bounds, and its default. -/
def typeParam (r : Rules) (attributes : List Tree) : Reader Tree := do
  let i ← name
  let bounds ←
    if ← op? ":" then linked (Peek.anyOp [",", ">", "="]) (r.bound false true) "+" else pure []
  let fallback ← partAfter "=" (r.type true)
  return .form .typeParam [.list attributes, .ident i, .list bounds, fallback]

/-- A constant parameter: its attributes, its name, its type, and its default. -/
def constParam (r : Rules) (attributes : List Tree) : Reader Tree := do
  word "const"
  let i ← name
  op ":"
  let type ← r.type true
  let fallback ← partAfter "=" (constArgument r)
  return .form .constParam [.list attributes, .ident i, type, fallback]

/-- A generic parameter after its attributes. -/
def bareGenericParam (r : Rules) (attributes : List Tree) : Reader Tree := do
  if ← sees Peek.lifetime then lifetimeParam attributes
  else if ← sees Peek.name then typeParam r attributes
  else constParam r attributes

/-- A generic parameter. -/
def genericParam (r : Rules) : Reader Tree := do bareGenericParam r (← outerAttributes r)

/-- The parameters bound by `for<…>`, if it comes next. -/
def binder? (r : Rules) : Reader Tree := do
  if ← word? "for" then
    op "<"
    let params ← separated (Peek.op ">") r.genericParam ","
    op ">"
    return .list [.form .binder params]
  else return .list []

/-- A trait as a bound: the sign of a bound that may fail, the parameters that are bound before it,
and its path. One that is constant or may be so is not interpreted. -/
def traitBound (r : Rules) (constants : Bool) : Reader Tree := do
  let before ← binder? r
  let conditional ← sees (Peek.group .bracket)
  let constant ←
    if conditional then do
      inside .bracket (word "const")
      pure true
    else word? "const"
  if constant && !constants then reject
  let maybe ← op? "?"
  let binder ← if before.isAbsent && maybe then binder? r else pure before
  let p ← path r false
  let p ←
    if endsBare p && (← sees parenArgsFollow) then do
      let _ ← op? "::"
      pure (withLastArgs (← parenArgs r) p)
    else pure p
  if maybe && !binder.isAbsent then reject
  if constant then return .uninterpreted
  else return .form .traitBound [.list (if maybe then [.punct '?'] else []), binder, p]

/-- What a type may capture: `use<…>`. -/
def preciseCapture : Reader Tree := do
  word "use"
  op "<"
  let param : Reader Tree := do
    if ← sees Peek.lifetime then return .lifetime (← lifetime)
    else if ← sees (Peek.word "Self") then return .ident (← anyWord)
    else return .ident (← name)
  let params ← separated (Peek.op ">") param ","
  op ">"
  return .form .preciseCapture params

/-- A bound of a type. -/
def bound (r : Rules) (captures constants : Bool) : Reader Tree := do
  if ← sees Peek.lifetime then return .lifetime (← lifetime)
  else if ← sees (Peek.word "use") then
    if captures then preciseCapture else reject
  else if ← sees (Peek.group .paren) then
    let b ← inside .paren (traitBound r constants)
    if b.isForm .traitBound then return .form .parenBound [b] else return b
  else traitBound r constants

/-- The bound is one by a trait. -/
def isTraitBound (t : Tree) : Bool :=
  t.isForm .traitBound || t.isForm .parenBound || t.isForm .uninterpreted

/-- Generic parameters come next, and not a qualified path that begins with the same sign. -/
def genericsFollow (ts : List TokenTree) : Bool :=
  Peek.op "<" ts &&
    (Peek.second (Peek.op ">") ts || Peek.second (Peek.op "#") ts ||
      (Peek.second (fun us => Peek.lifetime us || Peek.name us) ts &&
        (Peek.third (fun us => Peek.op ">" us || Peek.op "," us ||
          (Peek.op ":" us && !Peek.op "::" us) || Peek.op "=" us) ts)) ||
      Peek.second (Peek.word "const") ts)

/-- The generic parameters of an item between their angle brackets, if these come next. -/
def genericParams? (r : Rules) : Reader (Option (List Tree)) := do
  if ← op? "<" then
    let param : Reader Tree := do
      let attributes ← outerAttributes r
      if ← sees (Peek.word "_") then
        return .form .typeParam [.list attributes, .ident (← anyWord), .list [], .list []]
      else bareGenericParam r attributes
    let params ← separated (Peek.op ">") param ","
    op ">"
    return some params
  else return none

/-- The generic parameters of an item. -/
def genericParams (r : Rules) : Reader Tree := do return .list ((← genericParams? r).getD [])

/-- What ends the conditions of an item. -/
def endsConditions (ts : List TokenTree) : Bool :=
  ts.isEmpty || Peek.group .brace ts || Peek.anyOp [",", ";", "="] ts ||
    (Peek.op ":" ts && !Peek.op "::" ts)

/-- A condition on a lifetime or type: what it is on, and the bounds; for a type, the parameters
that are bound before it come first. -/
def predicate (r : Rules) : Reader Tree := do
  if ← sees (fun ts => Peek.lifetime ts && Peek.second (Peek.op ":") ts) then
    let l ← lifetime
    op ":"
    let bounds ← lifetimeBounds (fun ts => ts.isEmpty || Peek.group .brace ts ||
      Peek.anyOp [",", ";", ":", "="] ts)
    return .form .lifetimePredicate [.lifetime l, .list bounds]
  else
    let binder ← binder? r
    let type ← r.type true
    op ":"
    let bounds ← linked endsConditions (r.bound false true) "+"
    return .form .typePredicate [binder, type, .list bounds]

/-- The conditions of an item, if `where` comes next. -/
def whereClause? (r : Rules) : Reader (Option (List Tree)) := do
  if ← word? "where" then
    guarded (fun ts => !genericsFollow ts)
    return some (← linked endsConditions (predicate r) ",")
  else return none

/-- The conditions of an item. -/
def whereClause (r : Rules) : Reader Tree := do return .list ((← whereClause? r).getD [])

end DisplayGen.Source.Grammar
