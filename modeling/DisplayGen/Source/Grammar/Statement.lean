import DisplayGen.Source.Grammar.Item

/-!
# Statements

`statements r` reads the statements of a block up to its end. A statement that is an expression
needs a semicolon unless it ends in a block, or is the last one.
-/

namespace DisplayGen.Source.Grammar

open Reader

/-- What a call of a macro at the beginning of a statement is. -/
inductive MacroCallKind where
  /-- An item: a name follows the sign of the call. -/
  | item
  /-- A statement of its own: braces follow, and nothing that continues an expression. -/
  | statement
  deriving DecidableEq

/-- The kind of the macro call that comes next, if it is not the beginning of an expression. -/
def macroCallKind? (ts : List TokenTree) : Option MacroCallKind :=
  match simplePath ts with
  | none => none
  | some (_, rest) =>
    if !Peek.op "!" rest then none
    else if Peek.second (fun us => Peek.name us || Peek.word "try" us) rest then some .item
    else if Peek.second (Peek.group .brace) rest &&
        !Peek.third (fun us => (Peek.op "." us && !Peek.op ".." us) || Peek.op "?" us) rest then
      some .statement
    else none

/-- A static variable comes next, and not a closure. -/
def staticFollows (ts : List TokenTree) : Bool :=
  Peek.word "static" ts && Peek.second (fun us => Peek.word "mut" us || Peek.name us) ts

/-- A constant comes next, and not a block or closure. -/
def constFollows (ts : List TokenTree) : Bool :=
  Peek.word "const" ts &&
    !(Peek.second (fun us => Peek.group .brace us || Peek.word "static" us || Peek.word "move" us ||
        Peek.op "|" us) ts ||
      (Peek.second (Peek.word "async") ts &&
        !Peek.third (fun us => ["unsafe", "extern", "fn"].any (Peek.word · us)) ts))

/-- An item comes next. -/
def itemFollows (ts : List TokenTree) : Bool :=
  ["pub", "extern", "use", "fn", "mod", "type", "struct", "enum", "trait", "impl", "macro"].any
      (Peek.word · ts) ||
    (Peek.word "crate" ts && !Peek.second (Peek.op "::") ts) || staticFollows ts || constFollows ts ||
    (Peek.word "unsafe" ts && !Peek.second (Peek.group .brace) ts) ||
    (Peek.word "async" ts &&
      Peek.second (fun us => ["unsafe", "extern", "fn"].any (Peek.word · us)) ts) ||
    (Peek.word "union" ts && Peek.second Peek.name ts) ||
    (Peek.word "auto" ts && Peek.second (Peek.word "trait") ts) ||
    (Peek.word "default" ts &&
      Peek.second (fun us => Peek.word "unsafe" us || Peek.word "impl" us) ts)

/-- The last of the trees is a group in braces. -/
def endsInBraces (ts : List TokenTree) : Bool :=
  match ts.getLast? with
  | some (.group .brace _) => true
  | _ => false

/-- A declaration of local variables: its attributes, its pattern, its type, its value, and the
block that says what happens when the pattern does not match. Such a block may follow a value that
does not end in braces. -/
def letStatement (r : Rules) (attributes : List Tree) : Reader Tree := do
  word "let"
  let p ← r.pattern
  let type ← partAfter ":" (r.type true)
  let (value, otherwise) ←
    if ← op? "=" then do
      let (e, ts) ← taken (r.expr true)
      if ← wordIf? (!endsInBraces ts) "else" then pure ([e], [blockOf [] (.list []) (← plainBlock r)])
      else pure ([e], [])
    else pure ([], [])
  op ";"
  return .form .letStatement [.list attributes, p, type, .list value, .list otherwise]

/-- A semicolon, if one comes next, as a part that may be left out. -/
def semicolonPart : Reader Tree := do
  if ← op? ";" then return .list [.punct ';'] else return .list []

/-- A macro call as a statement: its attributes, its path, what stands in its brackets, and the
semicolon. -/
def macroStatementOf (attributes : List Tree) (path content semicolon : Tree) : Tree :=
  .form .macroStatement [.list attributes, path, content, semicolon]

/-- A macro call in braces as a statement. -/
def macroStatement (attributes : List Tree) : Reader Tree := do
  let m ← macroCall
  return macroStatementOf attributes m.path.toTree (.tokens m.delimiter m.content) (← semicolonPart)

/-- An expression as a statement. A macro call with a semicolon or in braces is a statement of its
own. -/
def statementOf (e semicolon : Tree) : Tree :=
  match e.bare with
  | .form .macroExpr [p, .tokens d ts] =>
    if d = .brace || !semicolon.isAbsent then
      macroStatementOf e.attributes p (.tokens d ts) semicolon
    else .form .exprStatement [e, semicolon]
  | _ => .form .exprStatement [e, semicolon]

/-- An expression as a statement. Its attributes are those of the leftmost operand. Without a
semicolon it may have to be the last one, which the second part says. -/
def exprStatement (r : Rules) (attributes : List Tree) : Reader (Tree × Bool) := do
  let depth := (← pending).length
  let e := withStatementAttributesFrom attributes depth (← statementExprWith r [])
  let semicolon ← semicolonPart
  let s := statementOf e semicolon
  return (s, semicolon.isAbsent && !endsInBlock e && !s.isForm .macroStatement)

/-- A statement, and whether it has to be the last one. -/
def statement (r : Rules) : Reader (Tree × Bool) := do
  let attributes ← outerAttributes r
  let ts ← pending
  match macroCallKind? ts with
  | some .statement => return (← macroStatement attributes, false)
  | some .item => return (← itemWith r attributes, false)
  | none =>
    if Peek.word "let" ts then return (← letStatement r attributes, false)
    else if itemFollows ts then return (← itemWith r attributes, false)
    else exprStatement r attributes

/-- The statements up to the end, at most `fuel` of them. -/
def statementsFrom (r : Rules) : Nat → Reader (List Tree)
  | 0 => reject
  | fuel + 1 => do
    if ← atEnd then return []
    else if ← op? ";" then
      let more ← statementsFrom r fuel
      return .form .emptyStatement [] :: more
    else
      let (s, last) ← statement r
      if last then guarded List.isEmpty
      let more ← statementsFrom r fuel
      return s :: more

/-- The statements up to the end. -/
def statements (r : Rules) : Reader (List Tree) := fun ts => statementsFrom r (ts.length + 1) ts

end DisplayGen.Source.Grammar
