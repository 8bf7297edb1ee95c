import DisplayGen.Source.Printer.Expr

/-!
# Printed items

An item is a group that is indented; what stands in its braces ends with an outdented line. Members,
fields, variants and statements stand on lines of their own.
-/

namespace DisplayGen.Source.Printer

open Text Text.Writer

/-! ## Parts of items -/

/-- What stands in the braces of an item, in the group of the item. -/
def bodyLines (content : Writer Unit) : Writer Unit := do
  text "\x7b"
  newlineUnlessEnd
  content
  outdent

/-- An item with a body: a group, and the brace that closes it. -/
def withBody (head content : Writer Unit) : Writer Unit := do
  block step do
    head
    bodyLines content
  text "\x7d"
  newline

/-- An item with a semicolon at the end. -/
def withSemicolon (indent : Int) (content : Writer Unit) : Writer Unit := do
  block indent content
  newline

/-- The attributes and statements of a function's block. -/
def functionBody (p : Printers) (attributes : Tree) : Tree → Writer Unit
  | .node .block stmts => do
    innerAttributes p attributes
    statements p stmts
  | _ => fail

/-- A field. -/
def field (p : Printers) : Tree → Writer Unit
  | .form .field [attributes, v, i, t] => do
    outerAttributes p attributes
    visibility v
    i.parts.forM fun t => do
      name t
      text ": "
    p.type t
  | _ => fail

/-- Fields or variants, each with a comma behind it. -/
def memberLines (print : Tree → Writer Unit) (members : List Tree) : Writer Unit :=
  members.forM fun t => do
    print t
    text ","
    newline

/-- Fields without names between round brackets, in the group of what they belong to. -/
def positionalFields (p : Printers) (fields : List Tree) : Writer Unit := do
  text "("
  cut
  fields |> each fun last t => do
    field p t
    comma last
  outdent
  text ")"

/-- The fields of a variant. -/
def variantFields (p : Printers) : Tree → Writer Unit
  | .form .namedFields fields => do
    text " \x7b"
    block step do
      space
      fields |> each fun last t => do
        field p t
        commaOrSpace last
      outdent
    text "\x7d"
  | .form .positionalFields fields => block step (positionalFields p fields)
  | _ => pure ()

/-- A variant of an enumeration. -/
def variant (p : Printers) : Tree → Writer Unit
  | .form .variant [attributes, i, fields, value] => do
    outerAttributes p attributes
    name i
    variantFields p fields
    optional " = " (p.expr false) value
  | _ => fail

/-- The own value of a method. -/
def receiver (p : Printers) (attributes reference l mutable type : Tree) : Writer Unit := do
  outerAttributes p attributes
  mark "&" reference
  l.parts.forM fun
    | .lifetime i => do
      lifetime i
      blank
    | _ => fail
  mark "mut " mutable
  text "self"
  optional ": " p.type type

/-- An argument of a function, or what stands for any number of them. -/
def functionArgument (p : Printers) : Tree → Writer Unit
  | .node (.form f) children =>
    match f, children with
    | .receiver, [attributes, reference, l, mutable, type] =>
      receiver p attributes reference l mutable type
    | .typedArgument, [attributes, t, type] => do
      outerAttributes p attributes
      p.pattern t
      text ": "
      p.type type
    | .variadic, [attributes, t] => do
      outerAttributes p attributes
      t.parts.forM fun t => do
        p.pattern t
        text ": "
      text "..."
    | _, _ => fail
  | _ => fail

/-- What stands in front of the body of a function, without its conditions. -/
def signature (p : Printers) : Tree → Writer Unit
  | .form .signature [constness, asyncness, unsafety, convention, i, params, _, args, rest, result] => do
    mark "const " constness
    mark "async " asyncness
    mark "unsafe " unsafety
    abi convention
    text "fn "
    name i
    generics p params
    text "("
    fence
    block 0 do
      cut
      argumentList (functionArgument p) args rest
    text ")"
    block (-step) (output p result)
  | _ => fail

/-- The conditions of a function. -/
def signatureConditions : Tree → Tree
  | .form .signature [_, _, _, _, _, _, conditions, _, _, _] => conditions
  | _ => .list []

/-- A function with its block. -/
def functionWith (p : Printers) (attributes : Tree) (front : Writer Unit) (s b : Tree) : Writer Unit := do
  outerAttributes p attributes
  withBody (do
    front
    signature p s
    conditions p .body (signatureConditions s)) (functionBody p attributes b)

/-- A function without block. -/
def functionWithout (p : Printers) (attributes : Tree) (front : Writer Unit) (s : Tree) : Writer Unit := do
  outerAttributes p attributes
  withSemicolon step do
    front
    signature p s
    conditions p .semicolon (signatureConditions s)

/-- The value of a constant. -/
def valueWith (p : Printers) (e : Tree) : Writer Unit := do
  text " = "
  fence
  p.expr false e

/-- The type that a type declaration gives. -/
def typeWith (p : Printers) (before : String) (t : Tree) : Writer Unit := do
  text before
  fence
  flow (-step) (p.type t)

/-! ## Declarations of paths -/

/-- The tree ends in a group. -/
def endsInGroup : UseTree → Bool
  | .path _ t => endsInGroup t
  | .group _ => true
  | _ => false

mutual

/-- The tree of a `use` declaration. -/
def useTree : UseTree → Writer Unit
  | .path i t => do
    ident i
    text "::"
    useTree t
  | .name i => ident i
  | .rename i bound => do
    ident i
    text " as "
    ident bound
  | .glob => text "*"
  | .group ts => do
    text "\x7b"
    block step do
      cut
      flow 0 (useTrees ts)
      comma true
      outdent
    text "\x7d"

/-- The trees in a group. One that ends in a group has a line of its own. -/
def useTrees : List UseTree → Writer Unit
  | [] => pure ()
  | [t] => useTree t
  | t :: u :: ts => do
    useTree t
    text ","
    if endsInGroup t then newline else space
    useTrees (u :: ts)

end

/-! ## Items -/

/-- A struct. -/
def structItem (p : Printers) (head : StructHead) (v params cs fields : Tree) : Writer Unit := do
  let front : Writer Unit := do
    visibility v
    text "struct "
    ident head.name
    generics p params
  match head.fields with
  | .named _ =>
    withBody (do
      front
      conditions p .body cs) (memberLines (field p) fields.parts)
  | .positional =>
    withSemicolon step do
      front
      positionalFields p fields.parts
      conditions p .semicolon cs
  | .unit =>
    withSemicolon step do
      front
      conditions p .semicolon cs

/-- An enumeration or union, whose members are printed as given. -/
def enumOrUnion (p : Printers) (w : String) (i : Ident) (v params cs members : Tree)
    (print : Tree → Writer Unit) : Writer Unit :=
  withBody (do
    visibility v
    text w
    ident i
    generics p params
    conditions p .body cs) (memberLines print members.parts)

/-- A macro call as a member. -/
def memberMacro (p : Printers) (attributes path : Tree) (d : Delimiter) (ts : List TokenTree) : Writer Unit := do
  outerAttributes p attributes
  call path d ts true
  newline

/-- A member of a trait. -/
def traitMember (p : Printers) : Tree → Writer Unit
  | .node (.form f) children =>
    match f, children with
    | .traitFunction, [attributes, s, .list [b]] => functionWith p attributes (pure ()) s b
    | .traitFunction, [attributes, s, .list []] => functionWithout p attributes (pure ()) s
    | .traitConst, [attributes, i, t, value] => do
      outerAttributes p attributes
      withSemicolon 0 do
        text "const "
        name i
        text ": "
        p.type t
        value.parts.forM (valueWith p)
        text ";"
    | .traitType, [attributes, i, params, cs, bounds, fallback] => do
      outerAttributes p attributes
      withSemicolon step do
        text "type "
        name i
        generics p params
        breakableBounds p (text ": ") bounds
        fallback.parts.forM (typeWith p " = ")
        conditionsInLine p .semicolon cs
    | .memberMacro, [attributes, path, .tokens d ts] => memberMacro p attributes path d ts
    | _, _ => fail
  | _ => fail

/-- A member of an implementation. -/
def implMember (p : Printers) : Tree → Writer Unit
  | .node (.form f) children =>
    match f, children with
    | .implFunction, [attributes, v, fallback, s, b] =>
      functionWith p attributes (do visibility v; mark "default " fallback) s b
    | .implConst, [attributes, v, fallback, i, t, e] => do
      outerAttributes p attributes
      withSemicolon 0 do
        visibility v
        mark "default " fallback
        text "const "
        name i
        text ": "
        p.type t
        valueWith p e
        text ";"
    | .implType, [attributes, v, fallback, i, params, cs, t] => do
      outerAttributes p attributes
      withSemicolon step do
        visibility v
        mark "default " fallback
        text "type "
        name i
        generics p params
        typeWith p " = " t
        conditionsInLine p .semicolon cs
    | .memberMacro, [attributes, path, .tokens d ts] => memberMacro p attributes path d ts
    | _, _ => fail
  | _ => fail

/-- A member of a block of foreign declarations. -/
def foreignMember (p : Printers) : Tree → Writer Unit
  | .node (.form f) children =>
    match f, children with
    | .foreignFunction, [attributes, v, s] => functionWithout p attributes (visibility v) s
    | .foreignStatic, [attributes, v, mutable, i, t] => do
      outerAttributes p attributes
      withSemicolon 0 do
        visibility v
        text "static "
        mark "mut " mutable
        name i
        text ": "
        p.type t
        text ";"
    | .foreignType, [attributes, v, i, params, _] => do
      outerAttributes p attributes
      withSemicolon 0 do
        visibility v
        text "type "
        name i
        generics p params
        text ";"
    | .memberMacro, [attributes, path, .tokens d ts] => memberMacro p attributes path d ts
    | _, _ => fail
  | _ => fail

/-- An implementation. -/
def implementation (p : Printers) (attributes fallback unsafety params cs negative ofTrait type members : Tree) :
    Writer Unit := do
  outerAttributes p attributes
  withBody (do
    flow (-step) do
      block step do
        mark "default " fallback
        mark "unsafe " unsafety
        text "impl"
        generics p params
      blank
      ofTrait.parts.forM fun t => do
        mark "!" negative
        path p false t
        space
        text "for "
      p.type type
    conditions p .body cs) (do
    innerAttributes p attributes
    members.parts.forM (implMember p))

/-- An item with a name of which only that matters to name resolution. -/
def namedItem (p : Printers) (k : NamedKind) (i : Ident) (children : List Tree) : Writer Unit :=
  match k, children with
  | .enum, [attributes, v, params, cs, variants] => do
    outerAttributes p attributes
    enumOrUnion p "enum " i v params cs variants (variant p)
  | .union, [attributes, v, params, cs, fields] => do
    outerAttributes p attributes
    enumOrUnion p "union " i v params cs fields (field p)
  | .trait, [attributes, v, unsafety, autoness, params, cs, bounds, members] => do
    outerAttributes p attributes
    withBody (do
      visibility v
      mark "unsafe " unsafety
      mark "auto " autoness
      text "trait "
      ident i
      generics p params
      plainBounds p (text ": ") bounds
      conditions p .body cs) (do
      innerAttributes p attributes
      members.parts.forM (traitMember p))
  | .traitAlias, [attributes, v, params, cs, bounds] => do
    outerAttributes p attributes
    withSemicolon step do
      visibility v
      text "trait "
      ident i
      generics p params
      text " = "
      fence
      breakableBounds p (pure ()) bounds
      conditions p .semicolon cs
  | .typeAlias, [attributes, v, params, cs, t] => do
    outerAttributes p attributes
    withSemicolon step do
      visibility v
      text "type "
      ident i
      generics p params
      conditionsInLine p .body cs
      typeWith p "= " t
      text ";"
  | .function, [attributes, v, s, b] => functionWith p attributes (visibility v) s b
  | .constant, [attributes, v, t, e] => do
    outerAttributes p attributes
    withSemicolon 0 do
      visibility v
      text "const "
      ident i
      text ": "
      p.type t
      valueWith p e
      text ";"
  | .static, [attributes, v, mutable, t, e] => do
    outerAttributes p attributes
    withSemicolon 0 do
      visibility v
      text "static "
      mark "mut " mutable
      ident i
      text ": "
      p.type t
      valueWith p e
      text ";"
  | .externCrate, [attributes, v, crate, bound] => do
    outerAttributes p attributes
    visibility v
    text "extern crate "
    name crate
    optional " as " name bound
    text ";"
    newline
  | _, _ => fail

/-- A module, with its content or without. -/
def moduleItem (p : Printers) (i : Ident) (inline : Bool) (attributes v unsafety items : Tree) : Writer Unit := do
  outerAttributes p attributes
  let front : Writer Unit := do
    visibility v
    mark "unsafe " unsafety
    text "mod "
    ident i
  if inline then
    withBody (do front; blank) do
      innerAttributes p attributes
      items.parts.forM p.item
  else
    withSemicolon step do
      front
      text ";"

/-- An item. -/
def item (p : Printers) : Tree → Writer Unit
  | .node (.struct head) [attributes, v, params, cs, fields] => do
    outerAttributes p attributes
    structItem p head v params cs fields
  | .node (.named k i) children => namedItem p k i children
  | .node (.module i inline) [attributes, v, unsafety, items] =>
    moduleItem p i inline attributes v unsafety items
  | .node (.use leadingColon t) [attributes, v] => do
    outerAttributes p attributes
    visibility v
    text (if leadingColon then "use ::" else "use ")
    useTree t
    text ";"
    newline
  | .node (.macroItem i) [attributes, path, .tokens d ts] => do
    outerAttributes p attributes
    namedCall path i d ts
    newline
  | .node (.implementation _) [attributes, fallback, unsafety, params, cs, negative, ofTrait, type, members] =>
    implementation p attributes fallback unsafety params cs negative ofTrait type members
  | .node .foreignBlock [attributes, unsafety, convention, members] => do
    outerAttributes p attributes
    withBody (do
      mark "unsafe " unsafety
      abi convention) (do
      innerAttributes p attributes
      members.parts.forM (foreignMember p))
  | _ => fail

end DisplayGen.Source.Printer
