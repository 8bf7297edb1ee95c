import DisplayGen.Source.Grammar.Path

/-!
# Types

`type r plus` reads a type. Bounds joined by `+` make a trait object where `plus` allows it.
-/

namespace DisplayGen.Source.Grammar

open Reader

/-- A bound may follow a `+`. -/
def boundFollows (constants : Bool) (ts : List TokenTree) : Bool :=
  Peek.anyWord ts || Peek.op "::" ts || Peek.op "?" ts || Peek.lifetime ts || Peek.group .paren ts ||
    (constants && Peek.group .bracket ts)

/-- Bounds joined by `+`, at most `fuel` of them. A `+` after the last is kept as a leaf. -/
def joinedBoundsFrom (plus : Bool) (follows : List TokenTree → Bool) (b : Reader Tree) :
    Nat → Reader (List Tree)
  | 0 => reject
  | fuel + 1 => do
    let first ← b
    if ← opIf? plus "+" then
      if ← sees follows then
        let more ← joinedBoundsFrom plus follows b fuel
        return first :: more
      else return [first, .punct '+']
    else return [first]

/-- Bounds joined by `+`, at least one. -/
def joinedBounds (plus : Bool) (follows : List TokenTree → Bool) (b : Reader Tree) :
    Reader (List Tree) := fun ts => joinedBoundsFrom plus follows b (ts.length + 1) ts

/-- The bounds of a trait object, of which one has to be a trait. -/
def objectBounds (r : Rules) (plus : Bool) : Reader (List Tree) := do
  let bounds ← joinedBounds plus (boundFollows false) (bound r false false)
  if bounds.any isTraitBound then return bounds else reject

/-- The bounds after `impl`. -/
def implBounds (r : Rules) (plus : Bool) : Reader (List Tree) := do
  let bounds ← joinedBounds plus (boundFollows true) (bound r true true)
  if bounds.any isTraitBound then return bounds else reject

/-- A foreign calling convention, if one comes next: its name may be left out. -/
def abi? : Reader Tree := do
  if ← word? "extern" then
    if ← sees Peek.string then return .list [.form .abi (← literalLeaves)]
    else return .list [.form .abi []]
  else return .list []

/-- An argument of a function type: its attributes, its name, and its type. The own value may be
named first, without a type; such an argument is not interpreted. -/
def functionTypeArgument (r : Rules) (allowSelf : Bool) (attributes : List Tree) : Reader Tree := do
  let argument (name : List Tree) (type : Tree) : Tree :=
    .form .argument [.list attributes, .list name, type]
  let mutSelf ←
    if allowSelf then
      sees (fun ts => Peek.word "mut" ts && Peek.second (Peek.word "self") ts)
    else pure false
  if mutSelf then word "mut"
  let named ← sees (fun ts =>
    (Peek.name ts || Peek.word "_" ts || (allowSelf && Peek.word "self" ts)) &&
      Peek.second (Peek.op ":") ts && !Peek.second (Peek.op "::") ts)
  if named then
    let i ← anyWord
    op ":"
    if allowSelf && !i.isWord "self" &&
        (← sees fun ts => Peek.word "mut" ts && Peek.second (Peek.word "self") ts) then
      word "mut"
      word "self"
      return argument [] .uninterpreted
    else
      let type ← r.type true
      if mutSelf then return argument [] .uninterpreted else return argument [.ident i] type
  else if mutSelf then
    word "self"
    return argument [] .uninterpreted
  else return argument [] (← r.type true)

/-- Further arguments of any number come next. -/
def variadicFollows (ts : List TokenTree) : Bool :=
  Peek.op "..." ts ||
    ((Peek.name ts || Peek.word "_" ts) && Peek.second (Peek.op ":") ts &&
      Peek.third (Peek.op "...") ts)

/-- Further arguments of any number, at the end of a function type: their attributes and name. -/
def functionTypeVariadic (attributes : List Tree) : Reader Tree := do
  let named ←
    if ← sees (fun ts => Peek.name ts || Peek.word "_" ts) then do
      let i ← anyWord
      op ":"
      pure [.ident i]
    else pure []
  op "..."
  let _ ← op? ","
  return .form .variadic [.list attributes, .list named]

/-- The arguments of a function type, at most `fuel` of them, and what stands for further ones. -/
def functionTypeArgumentsFrom (r : Rules) (first : Bool) : Nat → Reader (List Tree × List Tree)
  | 0 => reject
  | fuel + 1 => do
    if ← atEnd then return ([], [])
    let attributes ← outerAttributes r
    if ← sees variadicFollows then return ([], [← functionTypeVariadic attributes])
    else
      let more ← outerAttributes r
      let a ← functionTypeArgument r first (attributes ++ more)
      if ← atEnd then return ([a], [])
      op ","
      let (as, open?) ← functionTypeArgumentsFrom r false fuel
      return (a :: as, open?)

/-- The arguments of a function type. -/
def functionTypeArguments (r : Rules) : Reader (List Tree × List Tree) := fun ts =>
  functionTypeArgumentsFrom r true (ts.length + 1) ts

/-- A function type: the parameters that are bound before it, whether it is unsafe, its calling
convention, its arguments, what stands for further ones, and its result. -/
def functionType (r : Rules) (binder : Tree) : Reader Tree := do
  let unsafety ← wordPart "unsafe"
  let abi ← abi?
  word "fn"
  let (args, open?) ← inside .paren (functionTypeArguments r)
  let output ← returnType r false
  return .form .functionType [binder, unsafety, abi, .list args, .list open?, output]

/-- More bounds, each after a `+`. -/
def plusBounds (r : Rules) : Reader (List Tree) :=
  repeatedly (Peek.op "+") (do op "+"; bound r false false)

/-- A trait object without `dyn`: that, its bounds, and the `+` behind the last of them. -/
def bareObject (bounds : List Tree) (trailing : Bool) : Tree :=
  .form .traitObject [.list [], .list bounds, .list (if trailing then [.punct '+'] else [])]

/-- A path as a bound. -/
def pathBound (binder path : Tree) : Tree := .form .traitBound [.list [], binder, path]

/-- What a type in round brackets is as the first of several bounds. -/
def asFirstBound? : Tree → Option Tree
  | .form .pathType [p] => some (.form .parenBound [pathBound (.list []) p])
  | .form .traitObject [.list [], .list [b], .list []] =>
    if b.isForm .traitBound then some (.form .parenBound [b])
    else if b.isForm .parenBound || b.isForm .lifetime then some b
    else none
  | _ => none

/-- The content of a type in round brackets: its kind is not yet known when it is one type alone. -/
inductive ParenContent where
  | finished (t : Tree)
  | object (bound : Tree)
  | single (t : Tree)

/-- A trait object from its bounds, of which the last may be a leaf for a `+`. -/
def objectOf (dyn : List Tree) (bounds : List Tree) : Tree :=
  .form .traitObject [.list dyn, .list (bounds.filter fun b => !isPlus b), .list (bounds.filter isPlus)]
where
  /-- The leaf of a `+`. -/
  isPlus : Tree → Bool
    | .leaf (.punct _ _) => true
    | _ => false

/-- The content of round brackets in the place of a type. -/
def parenContent (r : Rules) : Reader ParenContent := do
  if ← atEnd then return .finished (.form .tupleType [])
  else if ← sees Peek.lifetime then
    return .finished (.form .parenType [objectOf [] (← objectBounds r true)])
  else if ← sees (Peek.op "?") then return .object (.form .parenBound [← traitBound r false])
  else
    let first ← r.type true
    if ← op? "," then
      let more ← commas (r.type true)
      return .finished (.form .tupleType (first :: more))
    else return .single first

/-- A type in round brackets. -/
def parenType (r : Rules) (plus : Bool) : Reader Tree := do
  match ← inside .paren (parenContent r) with
  | .finished t => return t
  | .object b => return bareObject (b :: (← plusBounds r)) false
  | .single t =>
    match asFirstBound? t with
    | some b =>
      if plus && (← sees (Peek.op "+")) then return bareObject (b :: (← plusBounds r)) false
      else return .form .parenType [t]
    | none => return .form .parenType [t]

/-- A type that begins with a path, with the parameters that have been bound before it. -/
def pathType (r : Rules) (plus : Bool) (binder : Tree) : Reader Tree := do
  match ← qualifiedPath r false with
  | [p] =>
    if isSimplePath p && (← sees (fun ts => Peek.op "!" ts && !Peek.op "!=" ts)) then
      op "!"
      let (d, ts) ← anyGroup
      return .form .macroType [p, .tokens d ts]
    else if !binder.isAbsent || (plus && (← sees (Peek.op "+"))) then
      let first := pathBound binder p
      if ← opIf? plus "+" then
        if ← sees (boundFollows false) then
          let more ← joinedBounds true (boundFollows false) (bound r false false)
          return objectOf [] (first :: more)
        else return bareObject [first] true
      else return bareObject [first] false
    else return .form .pathType [p]
  | parts => return .form .pathType parts

/-- A pointer type: whether it points to a constant, and to what. -/
def pointerType (r : Rules) : Reader Tree := do
  op "*"
  let kind ← if ← word? "const" then pure (Tree.word "const") else do word "mut"; pure (Tree.word "mut")
  return .form .pointerType [kind, ← r.type false]

/-- A reference type: its lifetime, whether it is mutable, and what it refers to. -/
def referenceType (r : Rules) : Reader Tree := do
  op "&"
  let l ← lifetimePart
  let m ← wordPart "mut"
  return .form .referenceType [l, m, ← r.type false]

/-- An array or slice type. -/
def bracketType (r : Rules) : Reader Tree :=
  inside .bracket (do
    let element ← r.type true
    if ← op? ";" then return .form .arrayType [element, ← r.expr true]
    else return .form .sliceType [element])

/-- What may stand after `for<…>` in a type. -/
def mayBeBound (ts : List TokenTree) : Bool :=
  Peek.name ts || ["fn", "unsafe", "extern", "super", "self", "Self", "crate"].any (Peek.word · ts)

/-- A construct that the compiler itself provides comes next. -/
def builtinFollows (ts : List TokenTree) : Bool :=
  Peek.word "builtin" ts && Peek.second (Peek.op "#") ts

/-- A construct that the compiler itself provides; it is kept as tokens. -/
def builtin : Reader Tree := do
  word "builtin"
  op "#"
  let _ ← name
  let (d, _) ← anyGroup
  if d = .paren then return .uninterpreted else reject

/-- A type. -/
def type (r : Rules) (plus : Bool) : Reader Tree := do
  let binder ← binder? r
  if !binder.isAbsent then guarded mayBeBound
  if ← sees (Peek.group .paren) then parenType r plus
  else if ← sees (fun ts => Peek.word "fn" ts || Peek.word "unsafe" ts || Peek.word "extern" ts) then
    functionType r binder
  else if ← sees builtinFollows then builtin
  else if ← sees (fun ts => Peek.name ts || Peek.word "super" ts || Peek.word "self" ts ||
      Peek.word "Self" ts || Peek.word "crate" ts || Peek.op "::" ts || Peek.op "<" ts) then
    pathType r plus binder
  else if ← word? "dyn" then
    let star ← op? "*"
    let bounds ← objectBounds r plus
    if star then return .uninterpreted else return objectOf [.word "dyn"] bounds
  else if ← sees (Peek.group .bracket) then bracketType r
  else if ← sees (Peek.op "*") then pointerType r
  else if ← sees (Peek.op "&") then referenceType r
  else if ← sees (fun ts => Peek.op "!" ts && !Peek.op "=" ts) then
    op "!"
    return .form .neverType []
  else if ← word? "impl" then
    return .form .implTrait ((← implBounds r plus).filter fun b => !objectOf.isPlus b)
  else if ← word? "_" then return .form .inferType []
  else if ← sees Peek.lifetime then return objectOf [] (← objectBounds r true)
  else reject

end DisplayGen.Source.Grammar
