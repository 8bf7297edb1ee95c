import DisplayGen.Source.Grammar.Expr
import DisplayGen.Source.Printer.Pattern

/-!
# Printed expressions

Fields, calls and the like behind an expression stand on lines of their own if they do not all fit
on one. The body of a closure or match arm that does not fit is put between braces.
-/

namespace DisplayGen.Source.Printer

open Text Text.Writer

/-! ## Kinds of expressions -/

/-- The operator assigns. -/
def isAssigning (op : List Tree) : Bool :=
  ["+=", "-=", "*=", "/=", "%=", "^=", "&=", "|=", "<<=", ">>="].contains (String.ofList (characters op))

/-- The expression is one that as a statement has a semicolon, even at the end of a block. -/
def wantsSemicolon (e : Tree) : Bool :=
  match e.bare with
  | .form .binary [_, .form .operator op, _] => isAssigning op
  | .form f _ =>
    match f with
    | .assign | .breakExpr | .continueExpr | .returnExpr | .yieldExpr => true
    | _ => false
  | _ => false

/-- The expression is a macro call in braces. -/
def isBracedCall : Tree → Bool
  | .form .macroExpr [_, .tokens .brace _] => true
  | _ => false

/-- The expression is a statement without a semicolon. -/
def isStatement (e : Tree) : Bool := Grammar.endsInBlock e || isBracedCall e.bare

/-- A statement may begin with the expression: what it begins with is no statement of its own. -/
def beginsStatement : Tree → Bool
  | .form .attributed [_, e] => beginsStatement e
  | .form .binary [e, _, _] => !isStatement e && beginsStatement e
  | .form .rangeExpr [.list [e], _, _] => !isStatement e && beginsStatement e
  | .form .methodCall [e, _, _, _] => beginsStatement e
  | .node (.form f) [e, _] =>
    match f with
    | .assign | .call | .cast | .index => !isStatement e && beginsStatement e
    | .fieldAccess => beginsStatement e
    | _ => true
  | .node (.form f) [e] =>
    match f with
    | .await | .tryExpr => beginsStatement e
    | _ => true
  | _ => true

/-- The expression has brackets of its own, so that it may stand in those of a call without a line
of its own. -/
def isBracketed : Tree → Bool
  | .form f _ =>
    match f with
    | .array | .asyncBlock | .blockExpr | .closure | .constBlock | .structExpr | .tryBlock | .tuple
    | .unsafeBlock => true
    | _ => false
  | _ => false

/-- The brace behind the condition stands on a line of its own if the condition does not fit on one.
-/
def isBroken : Tree → Bool
  | .form .attributed [_, e] => isBroken e
  | .form .call [e, _] => isBroken e
  | .form .letExpr [_, e] => isBroken e
  | .form .reference [_, e] => isBroken e
  | .form .rawAddress [_, e] => isBroken e
  | .form .unary [_, e] => isBroken e
  | .form .breakExpr [_, .list [e]] => isBroken e
  | .form .rangeExpr [_, _, .list [e]] => isBroken e
  | .form .parenExpr [e] => isBroken e
  | .form .tryExpr [e] => isBroken e
  | .form .returnExpr [.list [e]] => isBroken e
  | .form .yieldExpr [.list [e]] => isBroken e
  | .node (.form f) _ =>
    match f with
    | .assign | .await | .binary | .cast | .fieldAccess | .index | .methodCall => true
    | _ => false
  | _ => false

/-- The expression is a name that is no wider than a step. -/
def isShortName : Tree → Bool
  | .form .pathExpr [.form .path [.form .segment [.ident i]]] => (Text.width i.written : Int) ≤ step
  | _ => false

/-- The expression is a literal that is no string and no number with a point, so that several of
them may share a line. -/
def isShortLiteral (e : Tree) : Bool :=
  match e.bare with
  | .form .literalExpr [.leaf (.literal l)] => l.kind == .byte || l.kind == .char || l.isWhole
  | .form .literalExpr [.ident _] => true
  | _ => false

/-! ## Blocks -/

/-- The statements of a block. -/
def statements (p : Printers) (stmts : List Tree) : Writer Unit := stmts |> each p.statement

/-- The statements of a block with the attributes in it, each on a line of its own. -/
def body (p : Printers) (attributes : Tree) (stmts : List Tree) : Writer Unit :=
  block step do
    newlineUnlessEnd
    innerAttributes p attributes
    statements p stmts
    outdent

/-- A block in a group that is indented. If it is one expression that fits on the line, it stands
there. -/
def smallBlock (p : Printers) (attributes : Tree) : Tree → Writer Unit
  | .node .block stmts => do
    text "\x7b"
    unless stmts.isEmpty && !attributes.parts.any isInner do
      space
      innerAttributes p attributes
      match stmts with
      | [.form .exprStatement [e, .list []]] =>
        flow 0 (p.expr true e)
        space
      | _ => statements p stmts
      outdent
    text "\x7d"
  | _ => fail

/-- A label. -/
def label : Tree → Writer Unit
  | .list [.lifetime i] => do
    lifetime i
    text ": "
  | _ => pure ()

/-- A block behind a word. -/
def wordBlock (p : Printers) (w : String) (attributes b : Tree) : Writer Unit := do
  text w
  block step (smallBlock p attributes b)

/-- A condition, with what stands before the brace behind it. -/
def condition (p : Printers) (e : Tree) : Writer Unit :=
  block 0 do
    p.expr false e
    if isBroken e then space else blank

/-- What stands behind a block of a conditional: the block after `else`, and those behind it. -/
def otherwise (p : Printers) : Tree → Writer Unit
  | .form .ifExpr [c, b, .list more] => do
    text " else if "
    block (-step) (condition p c)
    smallBlock p (.list []) b
    match more with
    | [e] => otherwise p e
    | _ => pure ()
  | .form .blockExpr [_, _, b] => do
    text " else "
    smallBlock p (.list []) b
  | _ => fail

/-- A conditional: one without `else` has its statements on lines of their own. -/
def conditional (p : Printers) (c b more : Tree) : Writer Unit :=
  block step do
    text "if "
    block (-step) (condition p c)
    match more, b with
    | .list [e], _ =>
      smallBlock p (.list []) b
      otherwise p e
    | _, .node .block [] => text "\x7b\x7d"
    | _, .node .block stmts =>
      text "\x7b"
      newline
      statements p stmts
      outdent
      text "\x7d"
    | _, _ => fail

/-- The body of a loop behind its head. -/
def loopBody (p : Printers) (attributes : Tree) : Tree → Writer Unit
  | .node .block stmts => do
    body p attributes stmts
    text "\x7d"
  | _ => fail

/-! ## Arms and closures -/

/-- An expression that is put between brackets on lines of its own if it does not fit: braces,
unless a statement cannot begin with it. -/
def braced (opening closing unbroken : String) (semicolon : Bool) (e : Writer Unit) : Writer Unit :=
  block step do
    put (.break { lineEnd := opening })
    e
    put (.break {
      offset := -step
      lineEnd := if semicolon then ";" else ""
      lineStart := closing
      unbroken := unbroken })

/-- The expression that nested blocks consist of. That of no value is an empty block. -/
def unwrapped : Tree → Tree
  | .form .blockExpr [.list [], .list [], .node .block [.form .exprStatement [e, .list []]]] => unwrapped e
  | .form .tuple [] => .form .blockExpr [.list [], .list [], .node .block []]
  | e => e

/-- The body of a match arm. -/
def armBody (p : Printers) (e : Tree) : Writer Unit :=
  match e.bare with
  | .form .blockExpr [attributes, l, .node .block stmts] => do
    label l
    text "\x7b"
    fence
    body p attributes stmts
    text "\x7d"
  | _ => expression
where
  /-- A body that is no block. -/
  expression : Writer Unit := do
    let comma := if Grammar.endsInBlock e then "" else ","
    fence
    if beginsStatement e then braced "\x7b" "\x7d" comma (wantsSemicolon e) (p.expr true e)
    else braced "(" ")," comma false (p.expr true e)

/-- An arm of a match. -/
def arm (p : Printers) : Tree → Writer Unit
  | .form .matchArm [attributes, t, guard?, e] => do
    outerAttributes p attributes
    flow 0 do
      p.pattern t
      optional " if " (p.expr false) guard?
      text " => "
      armBody p (unwrapped e)
  | _ => fail

/-- The body of a closure. -/
def closureBody (p : Printers) (e : Tree) : Writer Unit :=
  if isBracketed e || e.isForm .matchExpr || e.isForm .call then p.expr false e
  else if beginsStatement e then braced "\x7b" "\x7d" "" (wantsSemicolon e) (p.expr false e)
  else braced "(" ")" "" false (p.expr false e)

/-- A closure from the parameters that are bound before it, the words in front of it, its arguments,
its result and its body. -/
def closure (p : Printers) (params words inputs result e : Tree) : Writer Unit := do
  binder p params
  words.parts.forM fun w => do
    name w
    blank
  block step do
    text "|"
    inputs.parts |> joined cut (do text ","; space) p.pattern
    if result.isAbsent then
      text "|"
      space
      outdent
    else
      unless inputs.isAbsent do
        comma true
        outdent
      text "|"
  if result.isAbsent then
    fence
    closureBody p e
  else
    output p result
    blank
    fence
    p.expr false e

/-! ## Links -/

/-- The arguments of a call. -/
def callArguments (p : Printers) (args : List Tree) : Writer Unit :=
  match args with
  | [e] => if isBracketed e then p.expr false e else inLines
  | _ => inLines
where
  /-- Each on a line of its own, if they do not fit. -/
  inLines : Writer Unit :=
    block step do
      cut
      args |> each fun last e => do
        p.expr false e
        comma last
      outdent

/-- The place before a point, at which the line may break, unless what is before it begins a line
and is short. -/
def beforePoint (start : Bool) (e : Tree) : Writer Unit := do
  unless start && isShortName e do
    put (.break { unbroken := if ← endsWith '.' then " " else "" })

/-- A method call behind its receiver. The arguments are indented less if `near` says so. -/
def methodLink (p : Printers) (start near : Bool) (e i generic args : Tree) : Writer Unit := do
  p.link start e
  beforePoint start e
  text "."
  name i
  match generic with
  | .list [.form .angleArgs ts] => angleArgs p true ts
  | _ => pure ()
  block (if near then -step else 0) do
    text "("
    callArguments p args.parts
    text ")"

/-- An expression that a field, call or the like follows. -/
def link (p : Printers) (expr : Tree → Writer Unit) (start : Bool) (e : Tree) : Writer Unit :=
  match e with
  | .form .await [e] => do
    p.link start e
    beforePoint start e
    text ".await"
  | .form .call [e, args] => do
    p.link false e
    text "("
    callArguments p args.parts
    text ")"
  | .form .fieldAccess [e, m] => do
    p.link start e
    beforePoint start e
    text "."
    member m
  | .form .index [e, i] => do
    p.link start e
    text "["
    p.expr false i
    text "]"
  | .form .methodCall [e, i, generic, args] => methodLink p start false e i generic args
  | .form .tryExpr [e] => do
    p.link start e
    text "?"
  | e => block (-step) (expr e)

/-! ## Expressions -/

/-- An operator between two operands. -/
def infixed (p : Printers) (e : Tree) (rest : Writer Unit) : Writer Unit :=
  flow step do
    flow (-step) (p.expr false e)
    space
    rest

/-- A word, and the expression that may follow it. -/
def jump (p : Printers) (w : String) (value : Tree) : Writer Unit := do
  text w
  optional " " (p.expr false) value

/-- An array: literals that are short share lines. -/
def array (p : Printers) (elements : List Tree) : Writer Unit :=
  if elements.isEmpty then text "[]"
  else if elements.all isShortLiteral then
    block step do
      text "["
      cut
      flow 0 (elements |> joined (pure ()) (do text ","; space) (p.expr false))
      comma true
      outdent
      text "]"
  else bracketed "[" "]" (p.expr false) elements

/-- A field of a struct literal. -/
def fieldValue (p : Printers) : Tree → Writer Unit
  | .form .fieldValue [attributes, m, value] => do
    outerAttributes p attributes
    member m
    optional ": " (fun e => flow 0 (p.expr false e)) value
  | _ => fail

/-- How wide a struct literal on one line may be, up to its closing brace. -/
def structLimit : Nat := 34

/-- A struct literal from the parts of its path, its fields, and what the others are taken from. -/
def structLiteral (p : Printers) (parts fields rest : Tree) : Writer Unit := do
  let others := rest.parts.drop 1
  block step do
    flow (-step) (qualifiedPath p true parts.parts)
    text " \x7b"
    spaceUnlessEnd
    fields.parts |> each fun last t => do
      fieldValue p t
      commaOrSpace (last && others.isEmpty)
    others.forM fun e => do
      text ".."
      p.expr false e
      space
    outdent
    atMost structLimit
  text "\x7d"

/-- A range. One with attributes is put between brackets. -/
def range (p : Printers) (start op stop : Tree) : Writer Unit := do
  start.parts.forM (p.expr false)
  if start.isAbsent && (← endsWith '.') then blank
  match op with
  | .form .operator ls => leaves ls
  | _ => fail
  stop.parts.forM (p.expr false)

/-- An expression that is a link, by itself; whether it begins a line. -/
def linkedOf (p : Printers) (start : Bool) (f : Form) (children : List Tree) : Writer Unit :=
  match f, children with
  | .await, [e] =>
    block step do
      p.link start e
      beforePoint start e
      text ".await"
  | .call, [e, args] => do
    p.expr start e
    text "("
    callArguments p args.parts
    text ")"
  | .fieldAccess, [e, m] =>
    block step do
      p.link start e
      beforePoint start e
      text "."
      member m
  | .index, [e, i] => do
    p.expr start e
    text "["
    p.expr false i
    text "]"
  | .methodCall, [e, i, generic, args] =>
    block step (methodLink p start (start && isShortName e) e i generic args)
  | .tryExpr, [e] => do
    p.expr start e
    text "?"
  | _, _ => fail

/-- An expression that is made of operators and their operands. -/
def operatedOf (p : Printers) (f : Form) (children : List Tree) : Writer Unit :=
  match f, children with
  | .assign, [l, e] =>
    flow 0 do
      p.expr false l
      text " = "
      fence
      p.expr false e
  | .binary, [l, .form .operator op, e] =>
    infixed p l do
      leaves op
      blank
      p.expr false e
  | .cast, [e, t] =>
    infixed p e do
      text "as "
      p.type t
  | .letExpr, [t, e] =>
    flow 0 do
      text "let "
      flow 0 (p.pattern t)
      text " = "
      fence
      flow 0 (p.expr false e)
  | .rangeExpr, [start, op, stop] => range p start op stop
  | .rawAddress, [kind, e] => do
    text "&raw "
    name kind
    blank
    p.expr false e
  | .reference, [mutable, e] => do
    text "&"
    mark "mut " mutable
    p.expr false e
  | .unary, [o, e] => do
    leaves [o]
    p.expr false e
  | .breakExpr, [l, value] => do
    text "break"
    optional " " (fun
      | .lifetime i => lifetime i
      | _ => fail) l
    optional " " (p.expr false) value
  | .continueExpr, [l] => do
    text "continue"
    optional " " (fun
      | .lifetime i => lifetime i
      | _ => fail) l
  | .returnExpr, [value] => jump p "return" value
  | .yieldExpr, [value] => jump p "yield" value
  | _, _ => fail

/-- An expression that has a block. -/
def blockyOf (p : Printers) (f : Form) (children : List Tree) : Writer Unit :=
  match f, children with
  | .asyncBlock, [move, b] => wordBlock p (if move.isAbsent then "async " else "async move ") (.list []) b
  | .blockExpr, [attributes, l, b] => do
    label l
    block step (smallBlock p attributes b)
  | .constBlock, [attributes, b] => wordBlock p "const " attributes b
  | .tryBlock, [b] => wordBlock p "try " (.list []) b
  | .unsafeBlock, [attributes, b] => wordBlock p "unsafe " attributes b
  | .ifExpr, [c, b, more] => conditional p c b more
  | .forLoop, [attributes, l, t, e, b] =>
    flow 0 do
      label l
      text "for "
      p.pattern t
      text " in "
      fence
      condition p e
      text "\x7b"
      fence
      loopBody p attributes b
  | .whileExpr, [attributes, l, c, b] => do
    label l
    text "while "
    condition p c
    text "\x7b"
    fence
    loopBody p attributes b
  | .loopExpr, [attributes, l, b] => do
    label l
    text "loop \x7b"
    loopBody p attributes b
  | .matchExpr, [attributes, e, arms] =>
    flow 0 do
      text "match "
      condition p e
      text "\x7b"
      fence
      block step do
        newlineUnlessEnd
        innerAttributes p attributes
        arms.parts.forM fun t => do
          arm p t
          newline
        outdent
      text "\x7d"
  | .closure, [params, words, inputs, result, e] => closure p params words inputs result e
  | _, _ => fail

/-- An expression that is a value by itself. -/
def valueOf (p : Printers) (f : Form) (children : List Tree) : Writer Unit :=
  match f, children with
  | .array, elements => array p elements
  | .inferExpr, [] => text "_"
  | .literalExpr, ls => leaves ls
  | .macroExpr, [t, .tokens d ts] => call t d ts false
  | .parenExpr, [e] => do
    text "("
    p.expr false e
    text ")"
  | .pathExpr, parts => qualifiedPath p true parts
  | .repeat, [e, size] => do
    text "["
    p.expr false e
    text "; "
    p.expr false size
    text "]"
  | .structExpr, [parts, fields, rest] => structLiteral p parts fields rest
  | .tuple, elements => tupled true (p.expr false) elements
  | _, _ => fail

/-- An expression from its form and its parts. -/
def exprOf (p : Printers) (start : Bool) (f : Form) (children : List Tree) : Writer Unit :=
  match f with
  | .await | .call | .fieldAccess | .index | .methodCall | .tryExpr => linkedOf p start f children
  | .assign | .binary | .cast | .letExpr | .rangeExpr | .rawAddress | .reference | .unary | .breakExpr
  | .continueExpr | .returnExpr | .yieldExpr => operatedOf p f children
  | .asyncBlock | .blockExpr | .constBlock | .tryBlock | .unsafeBlock | .ifExpr | .forLoop | .whileExpr
  | .loopExpr | .matchExpr | .closure => blockyOf p f children
  | _ => valueOf p f children

/-- An expression; whether it stands at the beginning of a line. -/
def expr (p : Printers) (start : Bool) : Tree → Writer Unit
  | .form .attributed [attributes, .node (.form f) children] => do
    outerAttributes p attributes
    if f == .rangeExpr then
      text "("
      exprOf p start f children
      text ")"
    else exprOf p start f children
  | .node (.form f) children => exprOf p start f children
  | _ => fail

end DisplayGen.Source.Printer
