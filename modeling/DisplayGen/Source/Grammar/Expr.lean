import DisplayGen.Source.Grammar.Pattern

/-!
# Expressions

An expression is a chain of operands and binary operators (`operatorChain`); an operand is an atom
with calls, fields and the like after it (`trailing`), behind prefix operators (`unary`). `structs`
says whether a struct literal may stand where a block could follow.
-/

namespace DisplayGen.Source.Grammar

open Reader

/-- The binary operators with their precedences, longer ones before their beginnings. -/
def binaryOperators : List (String × Precedence) :=
  [("+=", .assign), ("-=", .assign), ("*=", .assign), ("/=", .assign), ("%=", .assign),
   ("^=", .assign), ("&=", .assign), ("|=", .assign), ("<<=", .assign), (">>=", .assign),
   ("&&", .and), ("||", .or), ("<<", .shift), (">>", .shift), ("==", .compare), ("<=", .compare),
   ("!=", .compare), (">=", .compare), ("+", .sum), ("-", .sum), ("*", .product), ("/", .product),
   ("%", .product), ("^", .bitXor), ("&", .bitAnd), ("|", .bitOr), ("<", .compare),
   (">", .compare)]

/-- The binary operator that comes next. -/
def binaryOperator? (ts : List TokenTree) : Option (String × Precedence) :=
  binaryOperators.find? fun o => Peek.op o.1 ts

/-- An assignment comes next. -/
def assignFollows (ts : List TokenTree) : Bool :=
  Peek.op "=" ts && !Peek.op "==" ts && !Peek.op "=>" ts

/-- The precedence of what comes next. -/
def nextPrecedence (ts : List TokenTree) : Precedence :=
  match binaryOperator? ts with
  | some (_, p) => p
  | none =>
    if assignFollows ts then .assign
    else if Peek.op ".." ts then .range
    else if Peek.word "as" ts then .cast
    else .jump

/-- The expression is a range. -/
def isRange (e : Tree) : Bool := e.bare.isForm .rangeExpr

/-- The operator that the leaves spell. -/
def spelled (leaves : List Tree) : List Char :=
  leaves.filterMap fun
    | .leaf (.punct c _) => some c
    | _ => none

/-- The expression is a comparison. -/
def isComparison : Tree → Bool
  | .form .binary [_, .form .operator o, _] =>
    [['=', '='], ['<', '='], ['!', '='], ['>', '='], ['<'], ['>']].contains (spelled o)
  | _ => false

/-- A range ends here, and has no upper bound. -/
def endsOpenRange (structs : Bool) (ts : List TokenTree) : Bool :=
  ts.isEmpty || Peek.anyOp [",", ";"] ts || (Peek.op "." ts && !Peek.op ".." ts) ||
    Peek.anyOp ["?", "=>"] ts || (!structs && Peek.group .brace ts) ||
    Peek.anyOp ["=", "+", "/", "%", "^", ">", "<=", "!=", "-=", "*=", "&=", "|=", "<<="] ts ||
    Peek.word "as" ts

/-- A range: its operator between its bounds. -/
def rangeOf (r : Rules) (structs : Bool) (start : List Tree) : Reader Tree := do
  let o ← rangeOperator false
  if o = ".." && (← sees (endsOpenRange structs)) then
    return .form .rangeExpr [.list start, .operator o, .list []]
  else return .form .rangeExpr [.list start, .operator o, .list [← r.operand structs .range]]

/-- What follows a cast is not one of the suffixes that bind tighter. -/
def mayFollowCast (ts : List TokenTree) : Bool :=
  !((Peek.op "." ts && !Peek.op ".." ts) || Peek.op "?" ts || Peek.group .bracket ts ||
    Peek.group .paren ts)

/-- The binary operators that bind at least as tightly as `base`, after a left operand; at most
`fuel` of them. A range is no left operand, and comparisons do not chain. -/
def operatorChainFrom (r : Rules) (structs : Bool) (base : Precedence) (lhs : Tree) : Nat → Reader Tree
  | 0 => reject
  | fuel + 1 => do
    if isRange lhs then return lhs
    match binaryOperator? (← pending) with
    | some (o, p) =>
      if p.rank < base.rank then return lhs
      else if p == .compare && isComparison lhs then reject
      else
        op o
        let rhs ← r.operand structs p
        operatorChainFrom r structs base (.form .binary [lhs, .operator o, rhs]) fuel
    | none =>
      if base.rank ≤ Precedence.assign.rank && (← sees assignFollows) then
        op "="
        let rhs ← r.operand structs .assign
        operatorChainFrom r structs base (.form .assign [lhs, rhs]) fuel
      else if base.rank ≤ Precedence.range.rank && (← sees (Peek.op "..")) then
        let e ← rangeOf r structs [lhs]
        operatorChainFrom r structs base e fuel
      else if base.rank ≤ Precedence.cast.rank && (← sees (Peek.word "as")) then
        word "as"
        let t ← r.type false
        guarded mayFollowCast
        operatorChainFrom r structs base (.form .cast [lhs, t]) fuel
      else return lhs

/-- The binary operators that bind at least as tightly as `base`, after a left operand. -/
def operatorChain (r : Rules) (structs : Bool) (base : Precedence) (lhs : Tree) : Reader Tree :=
  fun ts => operatorChainFrom r structs base lhs (ts.length + 1) ts

/-- Lets the operators take over that bind tighter than the one before; at most `fuel` times. -/
def tighterFrom (r : Rules) (structs : Bool) (p : Precedence) (rhs : Tree) : Nat → Reader Tree
  | 0 => reject
  | fuel + 1 => do
    let before ← pending
    let next := nextPrecedence before
    if p.rank < next.rank || (next == p && p == .assign) then
      let rhs' ← operatorChain r structs next rhs
      let after ← pending
      if after.length == before.length then return rhs'
      else tighterFrom r structs p rhs' fuel
    else return rhs

/-- The arguments of a call. -/
def callArguments (r : Rules) : Reader (List Tree) := inside .paren (commas (r.expr true))

/-- A field or method behind a point. A method call has the receiver, the name, the generic
arguments, and the arguments. -/
def member (r : Rules) (e : Tree) : Reader Tree := do
  if ← word? "await" then return .form .await [e]
  else if ← sees Peek.name then
    let i ← name
    if ← sees (Peek.op "::") then
      let generics ← angleArgs r
      return .form .methodCall [e, .ident i, .list [generics], .list (← callArguments r)]
    else if ← sees (Peek.group .paren) then
      return .form .methodCall [e, .ident i, .list [], .list (← callArguments r)]
    else return .form .fieldAccess [e, .ident i]
  else return .form .fieldAccess [e, ← position]

/-- The literal of a position. -/
def positionLeaf (n : Nat) : Tree := .leaf (.literal ⟨.number, (toString n).toList⟩)

/-- What follows a point: a number with points names several positions at once. -/
def afterPoint (r : Rules) (e : Tree) : Reader Tree := do
  match ← pending with
  | .literal l :: _ =>
    if l.isReal then
      let _ ← literal
      match positions? l.text with
      | some (ns, open?) =>
        let e' := ns.foldl (fun t n => .form .fieldAccess [t, positionLeaf n]) e
        if open? then member r e' else return e'
      | none => reject
    else member r e
  | _ => member r e

/-- Calls, fields, indices and the like after an expression; at most `fuel` of them. -/
def trailingFrom (r : Rules) (e : Tree) : Nat → Reader Tree
  | 0 => reject
  | fuel + 1 => do
    if ← sees (Peek.group .paren) then
      let args ← callArguments r
      trailingFrom r (.form .call [e, .list args]) fuel
    else if !e.isForm .rangeExpr && (← sees fun ts => Peek.op "." ts && !Peek.op ".." ts) then
      op "."
      let e' ← afterPoint r e
      trailingFrom r e' fuel
    else if ← sees (Peek.group .bracket) then
      let i ← inside .bracket (r.expr true)
      trailingFrom r (.form .index [e, i]) fuel
    else if ← opIf? (!e.isForm .rangeExpr) "?" then trailingFrom r (.form .tryExpr [e]) fuel
    else return e

/-- Calls, fields, indices and the like after an expression. -/
def trailing (r : Rules) (e : Tree) : Reader Tree := fun ts => trailingFrom r e (ts.length + 1) ts

/-- A field of a struct literal: its attributes, its name or position, and its value. -/
def fieldValue (r : Rules) : Reader Tree := do
  let attributes ← outerAttributes r
  if ← sees Peek.name then
    let i ← name
    return .form .fieldValue [.list attributes, .ident i, ← partAfter ":" (r.expr true)]
  else
    let n ← position
    op ":"
    return .form .fieldValue [.list attributes, n, .list [← r.expr true]]

/-- The fields of a struct literal, at most `fuel` of them; then `..`, and what the remaining fields
are taken from. -/
def fieldValuesFrom (r : Rules) : Nat → Reader (List Tree × List Tree)
  | 0 => reject
  | fuel + 1 => do
    if ← atEnd then return ([], [])
    else if ← op? ".." then
      if ← atEnd then return ([], [.operator ".."])
      else return ([], [.operator "..", ← r.expr true])
    else
      let f ← fieldValue r
      if ← atEnd then return ([f], [])
      op ","
      let (fs, rest) ← fieldValuesFrom r fuel
      return (f :: fs, rest)

/-- The fields of a struct literal. -/
def fieldValues (r : Rules) : Reader (List Tree × List Tree) := fun ts =>
  fieldValuesFrom r (ts.length + 1) ts

/-- A path, or the macro call or struct literal that begins with it. A struct literal has the parts
of its path, its fields, and what the remaining fields are taken from. -/
def fromPath (r : Rules) (structs : Bool) : Reader Tree := do
  let parts ← qualifiedPath r true
  if isSimpleParts parts && (← sees callSignFollows) then
    op "!"
    let (d, ts) ← anyGroup
    return .form .macroExpr (parts ++ [.tokens d ts])
  else if structs && (← sees (Peek.group .brace)) then
    let (fields, rest) ← inside .brace (fieldValues r)
    return .form .structExpr [.list parts, .list fields, .list rest]
  else return .form .pathExpr parts

/-- An expression in round brackets, or a tuple. -/
def parenExpr (r : Rules) : Reader Tree :=
  inside .paren (do
    if ← atEnd then return .form .tuple []
    else
      let first ← r.expr true
      if ← atEnd then return .form .parenExpr [first]
      else
        op ","
        return .form .tuple (first :: (← commas (r.expr true))))

/-- An array, by its elements or by one element and a length. -/
def arrayExpr (r : Rules) : Reader Tree :=
  inside .bracket (do
    if ← atEnd then return .form .array []
    else
      let first ← r.expr true
      if ← atEnd then return .form .array [first]
      else if ← op? "," then return .form .array (first :: (← commas (r.expr true)))
      else
        op ";"
        return .form .repeat [first, ← r.expr true])

/-- An expression may begin here. -/
def exprFollows (ts : List TokenTree) : Bool :=
  (Peek.anyWord ts && !Peek.word "as" ts) || Peek.group .paren ts || Peek.group .bracket ts ||
    Peek.group .brace ts || Peek.literal ts || (Peek.op "!" ts && !Peek.op "!=" ts) ||
    (Peek.op "-" ts && !Peek.op "-=" ts && !Peek.op "->" ts) ||
    (Peek.op "*" ts && !Peek.op "*=" ts) || (Peek.op "|" ts && !Peek.op "|=" ts) ||
    (Peek.op "&" ts && !Peek.op "&=" ts) || Peek.op ".." ts ||
    (Peek.op "<" ts && !Peek.op "<=" ts && !Peek.op "<<=" ts) || Peek.op "::" ts ||
    Peek.lifetime ts || Peek.op "#" ts

/-- The end of a loop or block with a value: the label and the value. A label in front of a loop
there needs brackets. -/
def breakExpr (r : Rules) (structs : Bool) : Reader Tree := do
  word "break"
  let l ← lifetimePart
  if !l.isAbsent && (← sees (Peek.op ":")) then reject
  let value ← part (fun ts => exprFollows ts && (structs || !Peek.group .brace ts)) (r.expr true)
  return .form .breakExpr [l, value]

/-- A keyword and the expression that may follow it. -/
def jumpExpr (r : Rules) (w : String) (f : Form) : Reader Tree := do
  word w
  return .form f [← part exprFollows (r.expr true)]

/-- A condition that binds a pattern. -/
def letExpr (r : Rules) (structs : Bool) : Reader Tree := do
  word "let"
  let p ← patterns r
  op "="
  return .form .letExpr [p, ← r.operand structs .let]

/-- An argument of a closure: its attributes, its pattern, and its type. -/
def closureArgument (r : Rules) : Reader Tree := do
  let attributes ← outerAttributes r
  let p ← r.pattern
  return .form .typedPattern [.list attributes, p, ← partAfter ":" (r.type true)]

/-- The words, of those given in their order, that come next. -/
def wordsPart : List Ident → Reader (List Tree)
  | [] => return []
  | i :: is => do
    let found ← word? i.name
    let more ← wordsPart is
    return if found then .ident i :: more else more

/-- A closure: the parameters that are bound before it, the words in front of it, its arguments, its
result, and its body. -/
def closure (r : Rules) (structs : Bool) : Reader Tree := do
  let binder ← binder? r
  let words ← wordsPart [.plain "const", .plain "static", .plain "async", .plain "move"]
  op "|"
  let inputs ← separated (Peek.op "|") (closureArgument r) ","
  op "|"
  if ← op? "->" then
    let t ← r.type true
    let b ← plainBlock r
    return .form .closure [binder, .list words, .list inputs, .list [t], blockOf [] (.list []) b]
  else
    return .form .closure [binder, .list words, .list inputs, .list [], ← r.expr structs]

/-- The label of a loop or block. -/
def label : Reader Tree := do
  let l ← lifetime
  op ":"
  return .lifetime l

/-- The label of a loop or block, if one comes next. -/
def label? : Reader Tree := part Peek.lifetime label

/-- A conditional: its condition, its block, and the conditional or block after `else`. -/
def ifExprFrom (r : Rules) : Nat → Reader Tree
  | 0 => reject
  | fuel + 1 => do
    word "if"
    let c ← r.expr false
    let b ← plainBlock r
    if ← word? "else" then
      if ← sees (Peek.word "if") then
        let e ← ifExprFrom r fuel
        return .form .ifExpr [c, b, .list [e]]
      else return .form .ifExpr [c, b, .list [blockOf [] (.list []) (← plainBlock r)]]
    else return .form .ifExpr [c, b, .list []]

/-- A conditional. -/
def ifExpr (r : Rules) : Reader Tree := fun ts => ifExprFrom r (ts.length + 1) ts

/-- A loop over the values of an expression: its attributes, its label, the pattern, the expression,
and the block. -/
def forLoop (r : Rules) : Reader Tree := do
  let l ← label?
  word "for"
  let p ← patterns r
  word "in"
  let e ← r.expr false
  let (attributes, b) ← bodyBlock r
  return .form .forLoop [.list attributes, l, p, e, b]

/-- A loop under a condition: its attributes, its label, the condition, and the block. -/
def whileExpr (r : Rules) : Reader Tree := do
  let l ← label?
  word "while"
  let c ← r.expr false
  let (attributes, b) ← bodyBlock r
  return .form .whileExpr [.list attributes, l, c, b]

/-- A loop without condition: its attributes, its label, and the block. -/
def loopExpr (r : Rules) : Reader Tree := do
  let l ← label?
  word "loop"
  let (attributes, b) ← bodyBlock r
  return .form .loopExpr [.list attributes, l, b]

/-- A block as an expression. -/
def blockExpr (r : Rules) : Reader Tree := do
  let l ← label?
  let (attributes, b) ← bodyBlock r
  return blockOf attributes l b

/-- A loop or block with a label. -/
def labeled (r : Rules) : Reader Tree := do
  match ← ahead (do let _ ← label; pending) with
  | none => reject
  | some rest =>
    if Peek.word "while" rest then whileExpr r
    else if Peek.word "for" rest then forLoop r
    else if Peek.word "loop" rest then loopExpr r
    else blockExpr r

/-- The expression is one after which a match arm needs no comma. -/
def endsInBlock (e : Tree) : Bool :=
  match e.bare with
  | .form f _ =>
    match f with
    | .ifExpr | .matchExpr | .blockExpr | .unsafeBlock | .whileExpr | .loopExpr | .forLoop
    | .tryBlock | .constBlock => true
    | _ => false
  | _ => false

/-- An arm of a match: its attributes, its pattern, its condition, and its body. -/
def matchArm (r : Rules) : Reader Tree := do
  let attributes ← outerAttributes r
  let p ← patterns r
  let guard? ← if ← word? "if" then pure [← r.expr true] else pure []
  op "=>"
  let body ← r.statementExpr
  let comma ← op? ","
  if !comma && !endsInBlock body then guarded List.isEmpty
  return .form .matchArm [.list attributes, p, .list guard?, body]

/-- A choice by patterns: its attributes, the expression, and the arms. -/
def matchExpr (r : Rules) : Reader Tree := do
  word "match"
  let e ← r.expr false
  let (attributes, arms) ← inside .brace (do
    let attributes ← innerAttributes r
    let arms ← repeatedly (fun ts => !ts.isEmpty) (matchArm r)
    return (attributes, arms))
  return .form .matchExpr [.list attributes, e, .list arms]

/-- A block in which unsafe operations are admitted: its attributes and the block. -/
def unsafeBlock (r : Rules) : Reader Tree := do
  word "unsafe"
  let (attributes, b) ← bodyBlock r
  return .form .unsafeBlock [.list attributes, b]

/-- A block that stops at the first failure. -/
def tryBlock (r : Rules) : Reader Tree := do
  word "try"
  return .form .tryBlock [← plainBlock r]

/-- A block that is run later: whether it takes what it uses, and the block. -/
def asyncBlock (r : Rules) : Reader Tree := do
  word "async"
  let m ← wordPart "move"
  return .form .asyncBlock [m, ← plainBlock r]

/-- A closure comes next. -/
def closureFollows (ts : List TokenTree) : Bool :=
  Peek.op "|" ts || Peek.word "move" ts ||
    (Peek.word "for" ts &&
      (match Peek.skip? ts with
       | some us => genericsFollow us
       | none => false)) ||
    (Peek.word "const" ts && !Peek.second (Peek.group .brace) ts) || Peek.word "static" ts ||
    (Peek.word "async" ts && Peek.second (fun us => Peek.op "|" us || Peek.word "move" us) ts)

/-- A path comes next. -/
def pathFollows (ts : List TokenTree) : Bool :=
  Peek.name ts || Peek.op "::" ts || Peek.op "<" ts ||
    ["self", "Self", "super", "crate"].any (Peek.word · ts) ||
    (Peek.word "try" ts && Peek.second (fun us => Peek.op "!" us || Peek.op "::" us) ts)

/-- An asynchronous block comes next. -/
def asyncBlockFollows (ts : List TokenTree) : Bool :=
  Peek.word "async" ts &&
    (Peek.second (Peek.group .brace) ts ||
      (Peek.second (Peek.word "move") ts && Peek.third (Peek.group .brace) ts))

/-- An expression without anything after it. -/
def atom (r : Rules) (structs : Bool) : Reader Tree := do
  if ← sees Peek.literal then return .form .literalExpr (← literalLeaves)
  else if ← sees asyncBlockFollows then asyncBlock r
  else if ← sees (fun ts => Peek.word "try" ts && Peek.second (Peek.group .brace) ts) then tryBlock r
  else if ← sees closureFollows then closure r structs
  else if ← sees builtinFollows then builtin
  else if ← sees pathFollows then fromPath r structs
  else if ← sees (Peek.group .paren) then parenExpr r
  else if ← sees (Peek.word "break") then breakExpr r structs
  else if ← word? "continue" then return .form .continueExpr [← lifetimePart]
  else if ← sees (Peek.word "return") then jumpExpr r "return" .returnExpr
  else if ← word? "become" then
    let _ ← r.expr true
    return .uninterpreted
  else if ← sees (Peek.group .bracket) then arrayExpr r
  else if ← sees (Peek.word "let") then letExpr r structs
  else if ← sees (Peek.word "if") then ifExpr r
  else if ← sees (Peek.word "while") then whileExpr r
  else if ← sees (Peek.word "for") then forLoop r
  else if ← sees (Peek.word "loop") then loopExpr r
  else if ← sees (Peek.word "match") then matchExpr r
  else if ← sees (Peek.word "yield") then jumpExpr r "yield" .yieldExpr
  else if ← sees (Peek.word "unsafe") then unsafeBlock r
  else if ← sees (Peek.word "const") then constBlock r
  else if ← sees (Peek.group .brace) then blockExpr r
  else if ← sees (Peek.op "..") then rangeOf r structs []
  else if ← word? "_" then return .form .inferExpr []
  else if ← sees Peek.lifetime then labeled r
  else reject

/-- Gives an expression its attributes. One that is not interpreted loses them. -/
def withAttributes (attributes : List Tree) (e : Tree) : Tree :=
  if attributes.isEmpty || e.isForm .uninterpreted then e
  else .form .attributed [.list attributes, e]

/-- Gives the attributes of a statement to the leftmost operand of its expression, at most `fuel`
operators deep. -/
def withStatementAttributesFrom (attributes : List Tree) : (fuel : Nat) → Tree → Tree
  | 0, e => withAttributes attributes e
  | fuel + 1, e =>
    match e with
    | .form .assign [l, r] => .form .assign [withStatementAttributesFrom attributes fuel l, r]
    | .form .binary [l, o, r] => .form .binary [withStatementAttributesFrom attributes fuel l, o, r]
    | .form .cast [l, t] => .form .cast [withStatementAttributesFrom attributes fuel l, t]
    | _ => withAttributes attributes e

/-- An operator in front of its operand. -/
def prefixOperator : Reader Char := do
  if ← op? "*" then return '*'
  else if ← op? "!" then return '!'
  else
    op "-"
    return '-'

/-- An expression without binary operators at its top. -/
def unary (r : Rules) (structs : Bool) : Reader Tree := do
  let attributes ← outerAttributes r
  if ← op? "&" then
    if ← sees (fun ts => Peek.word "raw" ts &&
        Peek.second (fun us => Peek.word "mut" us || Peek.word "const" us) ts) then
      word "raw"
      let m ← if ← word? "mut" then pure (Tree.word "mut") else do word "const"; pure (Tree.word "const")
      return withAttributes attributes (.form .rawAddress [m, ← r.unary structs])
    else
      let m ← wordPart "mut"
      return withAttributes attributes (.form .reference [m, ← r.unary structs])
  else if ← sees (Peek.anyOp ["*", "!", "-"]) then
    let o ← prefixOperator
    return withAttributes attributes (.form .unary [.punct o, ← r.unary structs])
  else
    let e ← trailing r (← atom r structs)
    if !attributes.isEmpty && e.isForm .rangeExpr then reject
    else return withAttributes attributes e

/-- The right operand of an operator. -/
def operand (r : Rules) (structs : Bool) (p : Precedence) : Reader Tree := do
  if p == .let then
    let lhs ← unary r structs
    operatorChain r structs .compare lhs
  else
    let rhs ← unary r structs
    fun ts => tighterFrom r structs p rhs (ts.length + 1) ts

/-- An expression. -/
def expr (r : Rules) (structs : Bool) : Reader Tree := do
  let lhs ← unary r structs
  operatorChain r structs .jump lhs

/-- An expression at the beginning of a statement or match arm, after its attributes. One that ends
in a block ends there, unless a point or a question mark follows. -/
def statementExprWith (r : Rules) (attributes : List Tree) : Reader Tree := do
  let e ←
    if ← sees (Peek.word "if") then ifExpr r
    else if ← sees (Peek.word "while") then whileExpr r
    else if ← sees (fun ts => Peek.word "for" ts && !closureFollows ts) then forLoop r
    else if ← sees (Peek.word "loop") then loopExpr r
    else if ← sees (Peek.word "match") then matchExpr r
    else if ← sees (fun ts => Peek.word "try" ts && Peek.second (Peek.group .brace) ts) then tryBlock r
    else if ← sees (Peek.word "unsafe") then unsafeBlock r
    else if ← sees (fun ts => Peek.word "const" ts && Peek.second (Peek.group .brace) ts) then constBlock r
    else if ← sees (Peek.group .brace) then blockExpr r
    else if ← sees Peek.lifetime then labeled r
    else unary r true
  if !endsInBlock e then operatorChain r true .jump (withAttributes attributes e)
  else if ← sees (fun ts => (Peek.op "." ts && !Peek.op ".." ts) || Peek.op "?" ts) then
    let e' ← trailing r e
    operatorChain r true .jump (withAttributes attributes e')
  else return withAttributes attributes e

/-- An expression at the beginning of a match arm. -/
def statementExpr (r : Rules) : Reader Tree := do statementExprWith r (← outerAttributes r)

end DisplayGen.Source.Grammar
