import DisplayGen.Source.Grammar.Expr

/-!
# Items

`item r` reads an item of a module or block. Some forms are accepted although they declare nothing
that a later stage can use; they are kept as uninterpreted source.
-/

namespace DisplayGen.Source.Grammar

open Reader

/-- The head of a function follows: its qualifiers and `fn`. -/
def signatureFollows (safe : Bool) (ts : List TokenTree) : Bool :=
  let head : Reader Unit := do
    let _ ← word? "const"
    let _ ← word? "async"
    let marked ← if safe then word? "safe" else pure false
    let _ ← if marked then pure true else word? "unsafe"
    let _ ← abi?
    guarded (Peek.word "fn")
  (head ts).isSome

/-- The own value of a method comes next, and not a path that begins with `self`. -/
def receiverFollows (ts : List TokenTree) : Bool :=
  let head : Reader Unit := do
    if ← op? "&" then
      let _ ← lifetimePart
    let _ ← word? "mut"
    word "self"
    guarded fun us => !Peek.op "::" us
  (head ts).isSome

/-- The own value as the first argument of a method: its attributes, whether it is a reference, with
which lifetime, whether it is mutable, and its type, which only an own value that is no reference
may have. -/
def receiver (r : Rules) (attributes : List Tree) : Reader Tree := do
  let reference ← op? "&"
  let l ← if reference then lifetimePart else pure (.list [])
  let m ← wordPart "mut"
  word "self"
  let type ← if reference then pure (.list []) else partAfter ":" (r.type true)
  return .form .receiver [.list attributes, .list (if reference then [.punct '&'] else []), l, m, type]

/-- An argument of a function, after its attributes: the own value, a pattern with its type, or what
stands for any number of arguments. -/
def argument (r : Rules) (attributes : List Tree) : Reader Tree := do
  if ← sees receiverFollows then receiver r attributes
  else if ← sees (fun ts => Peek.name ts && Peek.second (Peek.op "<") ts) then
    return .form .typedArgument [.list attributes, .form .wildPattern [], ← r.type true]
  else
    let p ← r.pattern
    op ":"
    if ← op? "..." then return .form .variadic [.list attributes, .list [p]]
    else return .form .typedArgument [.list attributes, p, ← r.type true]

/-- The arguments of a function, at most `fuel` of them, and what stands for further ones. Only the
first may be the own value. -/
def argumentsFrom (r : Rules) (first : Bool) : Nat → Reader (List Tree × List Tree)
  | 0 => reject
  | fuel + 1 => do
    if ← atEnd then return ([], [])
    let attributes ← outerAttributes r
    if ← op? "..." then
      let _ ← op? ","
      return ([], [.form .variadic [.list attributes, .list []]])
    let a ← argument r attributes
    if a.isForm .variadic then
      let _ ← op? ","
      return ([], [a])
    else if a.isForm .receiver && !first then reject
    else if ← atEnd then return ([a], [])
    else
      op ","
      let (as, open?) ← argumentsFrom r false fuel
      return (a :: as, open?)

/-- The arguments of a function. -/
def arguments (r : Rules) : Reader (List Tree × List Tree) := fun ts =>
  argumentsFrom r true (ts.length + 1) ts

/-- What stands in front of the body of a function. -/
structure SignatureParts where
  name : Ident
  /-- Whether the function is marked as safe to call, which only foreign ones may be. -/
  safe : Bool
  tree : Tree

/-- What stands in front of the body of a function: the words and the calling convention before
`fn`, its name, its generics and their conditions, its arguments, what stands for further ones, and
its result. -/
def signature (r : Rules) (safe : Bool) : Reader SignatureParts := do
  let constness ← wordPart "const"
  let asyncness ← wordPart "async"
  let unsafety ← wordPart "unsafe"
  let marked ← if safe && unsafety.isAbsent then word? "safe" else pure false
  let abi ← abi?
  word "fn"
  let i ← name
  let params ← genericParams r
  let (args, open?) ← inside .paren (arguments r)
  let output ← returnType r true
  let conditions ← whereClause r
  return ⟨i, marked, .form .signature [constness, asyncness, unsafety, abi, .ident i, params, conditions,
    .list args, .list open?, output]⟩

/-- The semicolon after a macro call, which braces make unnecessary. -/
def macroEnd (d : Delimiter) : Reader Unit := if d = .brace then pure () else op ";"

/-- A macro call: its path, and what stands in its brackets. -/
structure MacroCall where
  path : SimplePath
  delimiter : Delimiter
  content : List TokenTree

/-- The path of a macro call, and what stands in its brackets. -/
def macroCall : Reader MacroCall := do
  let p ← simplePath
  op "!"
  let (d, ts) ← anyGroup
  return ⟨p, d, ts⟩

/-- A macro call as a member: its attributes, its path, and what stands in its brackets. -/
def macroMember (attributes : List Tree) : Reader Tree := do
  let m ← macroCall
  macroEnd m.delimiter
  return .form .memberMacro [.list attributes, m.path.toTree, .tokens m.delimiter m.content]

/-- A macro call comes next. -/
def macroCallFollows (ts : List TokenTree) : Bool :=
  Peek.name ts || Peek.op "::" ts || ["self", "super", "crate"].any (Peek.word · ts)

/-- A macro call in the place of an item: its attributes, its path, and what stands in its brackets.
-/
def macroItem (attributes : List Tree) : Reader Tree := do
  let p ← simplePath
  op "!"
  let i ← if ← sees (Peek.word "try") then do pure (some (← anyWord))
    else if ← sees Peek.name then do pure (some (← name))
    else pure none
  let (d, ts) ← anyGroup
  macroEnd d
  return .node (.macroItem i) [.list attributes, p.toTree, .tokens d ts]

/-- The tree of a `use` declaration, in groups at most `fuel` branches. In an outermost group a
branch may begin with `::`; such a declaration has no meaning here. -/
def useGroupFrom (r : Rules) (rooted : Bool) : Nat → Reader (Option (List UseTree))
  | 0 => reject
  | fuel + 1 => do
    if ← atEnd then return some []
    let colons ← if rooted then op? "::" else pure false
    let t ← r.useTree (rooted && !colons)
    let t := if colons then none else t
    if ← atEnd then return t.map ([·])
    op ","
    let ts ← useGroupFrom r rooted fuel
    match t, ts with
    | some t, some ts => return some (t :: ts)
    | _, _ => return none

/-- The tree of a `use` declaration. -/
def useTree (r : Rules) (rooted : Bool) : Reader (Option UseTree) := do
  if ← sees (fun ts => Peek.name ts ||
      ["self", "super", "crate", "try"].any (Peek.word · ts)) then
    let i ← anyWord
    if ← op? "::" then
      match ← r.useTree false with
      | some t => return some (.path i t)
      | none => reject
    else if ← word? "as" then
      if ← sees (Peek.word "_") then return some (.rename i (← anyWord))
      else return some (.rename i (← name))
    else return some (.name i)
  else if ← op? "*" then return some .glob
  else
    let trees ← inside .brace (fun ts => useGroupFrom r rooted (ts.length + 1) ts)
    return trees.map .group

/-- A `use` declaration: its attributes and visibility. -/
def useItem (r : Rules) (attributes : List Tree) : Reader Tree := do
  let (_, v) ← visibility
  word "use"
  let leading ← op? "::"
  let t ← useTree r (!leading)
  op ";"
  match t with
  | some t => return .node (.use leading t) [.list attributes, v]
  | none => return .uninterpreted

/-- A field: its attributes, its visibility, its name if it has one, and its type. -/
def fieldOf (attributes : List Tree) (visibility : Tree) (name : List Tree) (type : Tree) : Tree :=
  .form .field [.list attributes, visibility, .list name, type]

/-- A named field. Its type may be a group of fields without a name of its own. -/
def namedField (r : Rules) : Reader (FieldHead × Tree) := do
  let attributes ← outerAttributes r
  let (vis, v) ← visibility
  let unnamed ← sees (Peek.word "_")
  let i ← if unnamed then anyWord else name
  op ":"
  if unnamed && (← sees fun ts => Peek.word "struct" ts ||
      (Peek.word "union" ts && Peek.second (Peek.group .brace) ts)) then
    let _ ← anyWord
    inside .brace (do
      let _ ← commas r.nestedField
      return ())
    return (⟨vis, i⟩, fieldOf attributes v [.ident i] .uninterpreted)
  else return (⟨vis, i⟩, fieldOf attributes v [.ident i] (← r.type true))

/-- A field without name. -/
def positionalField (r : Rules) : Reader Tree := do
  let attributes ← outerAttributes r
  let (_, v) ← visibility
  return fieldOf attributes v [] (← r.type true)

/-- The named fields between braces. -/
def namedFields (r : Rules) : Reader (List (FieldHead × Tree)) :=
  inside .brace (commas (namedField r))

/-- The fields between round brackets. -/
def positionalFields (r : Rules) : Reader (List Tree) := inside .paren (commas (positionalField r))

/-- A struct declaration: its attributes and visibility, its generics and their conditions, and its
fields. -/
def structItem (r : Rules) (attributes : List Tree) : Reader Tree := do
  let (vis, v) ← visibility
  word "struct"
  let i ← name
  let params ← genericParams r
  let conditions ← whereClause? r
  let declared (f : Fields) (conditions : Option (List Tree)) (fields : List Tree) : Tree :=
    .node (.struct ⟨attributeHeads attributes, vis, i, f⟩)
      [.list attributes, v, params, .list (conditions.getD []), .list fields]
  if conditions.isNone && (← sees (Peek.group .paren)) then
    let fields ← positionalFields r
    let conditions ← whereClause? r
    op ";"
    return declared .positional conditions fields
  else if ← sees (Peek.group .brace) then
    let fields ← namedFields r
    return declared (.named (fields.map (·.1))) conditions (fields.map (·.2))
  else
    op ";"
    return declared .unit conditions []

/-- The fields of a variant. -/
def variantFields (r : Rules) : Reader Tree := do
  if ← sees (Peek.group .brace) then return .form .namedFields ((← namedFields r).map (·.2))
  else if ← sees (Peek.group .paren) then return .form .positionalFields (← positionalFields r)
  else return .list []

/-- A variant of an enumeration: its attributes, its name, its fields, and its value. -/
def variant (r : Rules) : Reader Tree := do
  let attributes ← outerAttributes r
  let _ ← visibility
  let i ← name
  let fields ← variantFields r
  return .form .variant [.list attributes, .ident i, fields, ← partAfter "=" (r.expr true)]

/-- An enumeration: its attributes and visibility, its generics and their conditions, and its
variants. -/
def enumItem (r : Rules) (attributes : List Tree) : Reader Tree := do
  let (_, v) ← visibility
  word "enum"
  let i ← name
  let params ← genericParams r
  let conditions ← whereClause r
  let variants ← inside .brace (commas (variant r))
  return .node (.named .enum i) [.list attributes, v, params, conditions, .list variants]

/-- A union: its attributes and visibility, its generics and their conditions, and its fields. -/
def unionItem (r : Rules) (attributes : List Tree) : Reader Tree := do
  let (_, v) ← visibility
  word "union"
  let i ← name
  let params ← genericParams r
  let conditions ← whereClause r
  let fields ← namedFields r
  return .node (.named .union i) [.list attributes, v, params, conditions, .list (fields.map (·.2))]

/-- The items of a body up to its end, after the attributes at its beginning. -/
def itemsOf (r : Rules) (p : Reader Tree) : Reader (List Tree × List Tree) := do
  let attributes ← innerAttributes r
  let items ← repeatedly (fun ts => !ts.isEmpty) p
  return (attributes, items)

/-- A module, with its content or without: its attributes and visibility, whether it is unsafe, and
its items. -/
def moduleItem (r : Rules) (attributes : List Tree) : Reader Tree := do
  let (_, v) ← visibility
  let unsafety ← wordPart "unsafe"
  word "mod"
  let i ← if ← sees (Peek.word "try") then anyWord else name
  if ← op? ";" then return .node (.module i false) [.list attributes, v, unsafety, .list []]
  else
    let (inner, items) ← inside .brace (itemsOf r r.item)
    return .node (.module i true) [.list (attributes ++ inner), v, unsafety, .list items]

/-- An extern crate declaration: its attributes and visibility, the name of the crate, and its
alias. The name that it binds is the alias, if there is one. -/
def externCrateItem (attributes : List Tree) : Reader Tree := do
  let (_, v) ← visibility
  word "extern"
  word "crate"
  let i ← if ← sees (Peek.word "self") then anyWord else name
  let bound? ← if ← word? "as" then do
      let b ← if ← sees (Peek.word "_") then anyWord else name
      pure (some b)
    else pure none
  op ";"
  return .node (.named .externCrate (bound?.getD i))
    [.list attributes, v, .ident i, .list (bound?.toList.map .ident)]

/-- The bounds after the name of a type declaration. -/
def declaredBounds (r : Rules) : Reader (Option (List Tree)) := do
  if ← op? ":" then
    let stop := fun ts => Peek.word "where" ts || Peek.anyOp ["=", ";"] ts
    return some (← separated stop (bound r false true) "+")
  else return none

/-- Where the conditions of a type declaration may stand. -/
inductive ConditionsPlace where
  | beforeType
  | afterType
  | both
  deriving DecidableEq

/-- The parts of a type declaration. -/
structure TypeParts where
  name : Ident
  visibility : Visibility
  visibilityTree : Tree
  /-- The word that lets other implementations replace the type. -/
  fallback : Tree
  generics : Tree
  conditions : Tree
  bounds : Option (List Tree)
  definition : Option Tree

/-- A type declaration, in any of its forms. -/
def typeDeclaration (r : Rules) (fallback : Bool) (place : ConditionsPlace) : Reader TypeParts := do
  let (vis, v) ← visibility
  let f ← if fallback then wordPart "default" else pure (.list [])
  word "type"
  let i ← name
  let params ← genericParams r
  let bounds ← declaredBounds r
  let before ← if place = .afterType then pure none else whereClause? r
  let definition ← if ← op? "=" then do pure (some (← r.type true)) else pure none
  let after ← if place = .beforeType || before.isSome then pure none else whereClause? r
  op ";"
  return ⟨i, vis, v, f, params, .list ((before.or after).getD []), bounds, definition⟩

/-- A type alias: its attributes and visibility, its generics and their conditions, and the type.
Bounds, or the lack of a type, leave nothing to declare. -/
def typeItem (r : Rules) (attributes : List Tree) : Reader Tree := do
  let p ← typeDeclaration r false .beforeType
  match p.bounds, p.definition with
  | none, some t =>
    return .node (.named .typeAlias p.name)
      [.list attributes, p.visibilityTree, p.generics, p.conditions, t]
  | _, _ => return .uninterpreted

/-- A static variable: its attributes and visibility, whether it is mutable, its type, and its
value. -/
def staticItem (r : Rules) (attributes : List Tree) : Reader Tree := do
  let (_, v) ← visibility
  word "static"
  let m ← wordPart "mut"
  let i ← name
  if ← op? "=" then
    let _ ← r.expr true
    op ";"
    return .uninterpreted
  else
    op ":"
    let t ← r.type true
    if ← op? ";" then return .uninterpreted
    else
      op "="
      let e ← r.expr true
      op ";"
      return .node (.named .static i) [.list attributes, v, m, t, e]

/-- The rest of a constant after `const`: its name, generics and conditions, type and value. -/
structure ConstParts where
  name : Ident
  generic : Bool
  type : Tree
  value : Option Tree

/-- The rest of a constant after `const`. -/
def constRest (r : Rules) : Reader ConstParts := do
  let i ← if ← sees (Peek.word "_") then anyWord else name
  let params ← genericParams? r
  op ":"
  let t ← r.type true
  let e ← if ← op? "=" then do pure (some (← r.expr true)) else pure none
  let conditions ← whereClause? r
  op ";"
  return ⟨i, params.isSome || conditions.isSome, t, e⟩

/-- A constant: its attributes and visibility, its type, and its value. -/
def constItem (r : Rules) (attributes : List Tree) : Reader Tree := do
  let (_, v) ← visibility
  word "const"
  let c ← constRest r
  match c.value with
  | some e =>
    if c.generic then return .uninterpreted
    else return .node (.named .constant c.name) [.list attributes, v, c.type, e]
  | none => return .uninterpreted

/-- A function: its attributes and visibility, its signature, and its block. Without a body nothing
is declared. -/
def functionItem (r : Rules) (attributes : List Tree) : Reader Tree := do
  let (_, v) ← visibility
  let s ← signature r false
  if ← op? ";" then return .uninterpreted
  else
    let (inner, b) ← bodyBlock r
    return .node (.named .function s.name) [.list (attributes ++ inner), v, s.tree, b]

/-- A foreign function: its attributes and visibility, and its signature. -/
def foreignFunction (r : Rules) (attributes : List Tree) : Reader Tree := do
  let (_, v) ← visibility
  let s ← signature r true
  if ← sees (Peek.group .brace) then
    let _ ← bodyBlock r
    return .uninterpreted
  else
    op ";"
    if s.safe then return .uninterpreted
    else return .form .foreignFunction [.list attributes, v, s.tree]

/-- A foreign static variable: its attributes and visibility, whether it is mutable, its name, and
its type. -/
def foreignStatic (r : Rules) (attributes : List Tree) : Reader Tree := do
  let (_, v) ← visibility
  let unsafety ← word? "unsafe"
  let safe ← if unsafety then pure false else word? "safe"
  word "static"
  let m ← wordPart "mut"
  let i ← name
  op ":"
  let t ← r.type true
  let valued ← op? "="
  if valued then
    let _ ← r.expr true
  op ";"
  if unsafety || safe || valued then return .uninterpreted
  else return .form .foreignStatic [.list attributes, v, m, .ident i, t]

/-- A foreign type: its attributes and visibility, its name, and its generics with their conditions.
-/
def foreignType (r : Rules) (attributes : List Tree) : Reader Tree := do
  let p ← typeDeclaration r false .both
  if p.bounds.isSome || p.definition.isSome then return .uninterpreted
  else
    return .form .foreignType
      [.list attributes, p.visibilityTree, .ident p.name, p.generics, p.conditions]

/-- A member of a block of foreign declarations. -/
def foreignMember (r : Rules) : Reader Tree := do
  let attributes ← outerAttributes r
  let ahead? ← ahead (do let (vis, _) ← visibility; return (vis, ← pending))
  match ahead? with
  | none => reject
  | some (vis, ts) =>
    if Peek.word "fn" ts || signatureFollows true ts then foreignFunction r attributes
    else if Peek.word "static" ts || ((Peek.word "unsafe" ts || Peek.word "safe" ts) &&
        Peek.second (Peek.word "static") ts) then
      foreignStatic r attributes
    else if Peek.word "type" ts then foreignType r attributes
    else if vis = .inherited && macroCallFollows ts then macroMember attributes
    else reject

/-- A block of foreign declarations: its attributes, whether it is unsafe, its calling convention,
and its members. -/
def foreignItem (r : Rules) (attributes : List Tree) : Reader Tree := do
  let unsafety ← wordPart "unsafe"
  guarded (Peek.word "extern")
  let abi ← abi?
  let (inner, members) ← inside .brace (itemsOf r (foreignMember r))
  return .node .foreignBlock [.list (attributes ++ inner), unsafety, abi, .list members]

/-- A function of a trait: its attributes, its signature, and its block if it has one. -/
def traitFunction (r : Rules) (attributes : List Tree) : Reader Tree := do
  let more ← outerAttributes r
  let s ← signature r false
  if ← op? ";" then return .form .traitFunction [.list (attributes ++ more), s.tree, .list []]
  else
    let (inner, b) ← bodyBlock r
    return .form .traitFunction [.list (attributes ++ more ++ inner), s.tree, .list [b]]

/-- A constant of a trait: its attributes, its name, its type, and its value if it has one. -/
def traitConst (r : Rules) (attributes : List Tree) : Reader Tree := do
  word "const"
  let c ← constRest r
  if c.generic then return .uninterpreted
  else return .form .traitConst [.list attributes, .ident c.name, c.type, .list c.value.toList]

/-- A type of a trait: its attributes, its name, its generics and their conditions, its bounds, and
the type that it is by default. -/
def traitType (r : Rules) (attributes : List Tree) : Reader Tree := do
  let p ← typeDeclaration r false .afterType
  if p.visibility = .inherited then
    return .form .traitType [.list attributes, .ident p.name, p.generics, p.conditions,
      .list (p.bounds.getD []), .list p.definition.toList]
  else return .uninterpreted

/-- A member of a trait. -/
def traitMember (r : Rules) : Reader Tree := do
  let attributes ← outerAttributes r
  let (vis, _) ← visibility
  let fallback ← word? "default"
  let plain := vis = .inherited && !fallback
  let ts ← pending
  let t ←
    if Peek.word "fn" ts || signatureFollows false ts then traitFunction r attributes
    else if Peek.word "const" ts then traitConst r attributes
    else if Peek.word "type" ts then traitType r attributes
    else if plain && macroCallFollows ts then macroMember attributes
    else reject
  if plain then return t else return .uninterpreted

/-- The rest of a trait after its generics: its attributes and visibility, whether it is unsafe and
automatic, its generics and their conditions, its bounds, and its members. -/
def traitRest (r : Rules) (attributes : List Tree) (v unsafety autoness : Tree) (i : Ident)
    (params : Tree) : Reader Tree := do
  let stop := fun ts => Peek.word "where" ts || Peek.group .brace ts
  let bounds ← if ← op? ":" then separated stop (bound r false true) "+" else pure []
  let conditions ← whereClause r
  let (inner, members) ← inside .brace (itemsOf r (traitMember r))
  return .node (.named .trait i) [.list (attributes ++ inner), v, unsafety, autoness, params, conditions,
    .list bounds, .list members]

/-- A trait, or an alias of bounds: the latter has its attributes and visibility, its generics and
their conditions, and its bounds. -/
def traitItem (r : Rules) (attributes : List Tree) : Reader Tree := do
  let (_, v) ← visibility
  word "trait"
  let i ← name
  let params ← genericParams r
  if ← sees (fun ts => Peek.group .brace ts || Peek.op ":" ts || Peek.word "where" ts) then
    traitRest r attributes v (.list []) (.list []) i params
  else
    op "="
    let stop := fun ts => Peek.word "where" ts || Peek.op ";" ts
    let bounds ← separated stop (bound r false false) "+"
    let conditions ← whereClause r
    op ";"
    return .node (.named .traitAlias i) [.list attributes, v, params, conditions, .list bounds]

/-- A trait with qualifiers in front. -/
def qualifiedTraitItem (r : Rules) (attributes : List Tree) : Reader Tree := do
  let (_, v) ← visibility
  let unsafety ← wordPart "unsafe"
  let autoness ← wordPart "auto"
  word "trait"
  let i ← name
  let params ← genericParams r
  traitRest r attributes v unsafety autoness i params

/-- A function of an implementation: its attributes and visibility, whether others may replace it,
its signature, and its block. -/
def implFunction (r : Rules) (attributes : List Tree) : Reader Tree := do
  let (_, v) ← visibility
  let f ← wordPart "default"
  let s ← signature r false
  if ← op? ";" then return .uninterpreted
  else
    let (inner, b) ← bodyBlock r
    return .form .implFunction [.list (attributes ++ inner), v, f, s.tree, b]

/-- A constant of an implementation: its attributes and visibility, whether others may replace it,
its name, its type, and its value. -/
def implConst (r : Rules) (fallback : Bool) (attributes : List Tree) : Reader Tree := do
  let (_, v) ← visibility
  let f ← if fallback then wordPart "default" else pure (.list [])
  word "const"
  let c ← constRest r
  match c.value with
  | some e =>
    if c.generic then return .uninterpreted
    else return .form .implConst [.list attributes, v, f, .ident c.name, c.type, e]
  | none => return .uninterpreted

/-- A type of an implementation: its attributes and visibility, whether others may replace it, its
name, its generics and their conditions, and the type that it is. -/
def implType (r : Rules) (attributes : List Tree) : Reader Tree := do
  let p ← typeDeclaration r true .afterType
  match p.bounds, p.definition with
  | none, some t =>
    return .form .implType [.list attributes, p.visibilityTree, p.fallback, .ident p.name, p.generics,
      p.conditions, t]
  | _, _ => return .uninterpreted

/-- A member of an implementation. -/
def implMember (r : Rules) : Reader Tree := do
  let attributes ← outerAttributes r
  let ahead? ← ahead (do
    let (vis, _) ← visibility
    if ← sees (fun ts => Peek.word "default" ts && !Peek.second (Peek.op "!") ts) then
      word "default"
      return (vis, true, ← pending)
    else return (vis, false, ← pending))
  match ahead? with
  | none => reject
  | some (vis, fallback, ts) =>
    if Peek.word "fn" ts || signatureFollows false ts then implFunction r attributes
    else if Peek.word "const" ts then implConst r fallback attributes
    else if Peek.word "type" ts then implType r attributes
    else if vis = .inherited && !fallback && macroCallFollows ts then macroMember attributes
    else reject

/-- An implementation: its attributes, whether others may replace it and whether it is unsafe, its
generics and their conditions, whether it is negative, the path of its trait, its type, and its
members. A visibility, or a `const` in front of the trait, leaves nothing to declare. Only an
implementation of a trait can be negative. -/
def implItem (r : Rules) (attributes : List Tree) : Reader Tree := do
  let (vis, _) ← visibility
  let fallback ← wordPart "default"
  let unsafety ← wordPart "unsafe"
  word "impl"
  let params ← if ← sees genericsFollow then genericParams r else pure (.list [])
  let constant ← sees (fun ts => Peek.word "const" ts ||
    (Peek.op "?" ts && Peek.second (Peek.word "const") ts))
  if constant then
    let _ ← op? "?"
    word "const"
  let negative ←
    if ← sees (fun ts => Peek.op "!" ts && !Peek.second (Peek.group .brace) ts) then op? "!"
    else pure false
  let first ← r.type true
  let ofTrait ← word? "for"
  if negative && !ofTrait then reject
  let second? ← if ofTrait then do pure (some (← r.type true)) else pure none
  let conditions ← whereClause r
  let (inner, members) ← inside .brace (itemsOf r (implMember r))
  let declared (ofTrait : List Tree) (type : Tree) : Tree :=
    .node (.implementation !ofTrait.isEmpty) [.list (attributes ++ inner), fallback, unsafety, params,
      conditions, .list (if negative then [.punct '!'] else []), .list ofTrait, type, .list members]
  if vis != .inherited || constant then return .uninterpreted
  else
    match second?, first with
    | none, _ => return declared [] first
    | some type, .form .pathType [p] => return declared [p] type
    | some _, _ => return .uninterpreted

/-- The definition of a macro in the newer form. -/
def macroDefinition : Reader Tree := do
  let _ ← visibility
  word "macro"
  let _ ← name
  if ← sees (Peek.group .paren) then
    let _ ← anyGroup
  let (d, _) ← anyGroup
  if d = .brace then return .uninterpreted else reject

/-- An item that begins with `extern`, after a look at what follows. -/
def externItem (r : Rules) (attributes : List Tree) (after : List TokenTree) : Reader Tree := do
  if Peek.word "crate" after then externCrateItem attributes
  else if Peek.group .brace after then foreignItem r attributes
  else if Peek.string after && Peek.second (Peek.group .brace) after then foreignItem r attributes
  else reject

/-- An item that begins with `unsafe`, after a look at what follows. -/
def unsafeItem (r : Rules) (attributes : List Tree) (after : List TokenTree) : Reader Tree := do
  if Peek.word "trait" after || (Peek.word "auto" after && Peek.second (Peek.word "trait") after) then
    qualifiedTraitItem r attributes
  else if Peek.word "impl" after then implItem r attributes
  else if Peek.word "extern" after then foreignItem r attributes
  else if Peek.word "mod" after then moduleItem r attributes
  else reject

/-- An item after its attributes. -/
def itemWith (r : Rules) (attributes : List Tree) : Reader Tree := do
  match ← ahead (do let (vis, _) ← visibility; return (vis, ← pending)) with
  | none => reject
  | some (vis, ts) =>
    let after := (Peek.skip? ts).getD []
    if Peek.word "fn" ts || signatureFollows false ts then functionItem r attributes
    else if Peek.word "extern" ts then externItem r attributes after
    else if Peek.word "use" ts then useItem r attributes
    else if Peek.word "static" ts then staticItem r attributes
    else if Peek.word "const" ts then constItem r attributes
    else if Peek.word "unsafe" ts then unsafeItem r attributes after
    else if Peek.word "mod" ts then moduleItem r attributes
    else if Peek.word "type" ts then typeItem r attributes
    else if Peek.word "struct" ts then structItem r attributes
    else if Peek.word "enum" ts then enumItem r attributes
    else if Peek.word "union" ts && Peek.name after then unionItem r attributes
    else if Peek.word "trait" ts then traitItem r attributes
    else if Peek.word "auto" ts && Peek.word "trait" after then qualifiedTraitItem r attributes
    else if Peek.word "impl" ts || (Peek.word "default" ts && !Peek.op "!" after) then
      implItem r attributes
    else if Peek.word "macro" ts then macroDefinition
    else if vis = .inherited && macroCallFollows ts then macroItem attributes
    else reject

/-- An item. -/
def item (r : Rules) : Reader Tree := do itemWith r (← outerAttributes r)

end DisplayGen.Source.Grammar
