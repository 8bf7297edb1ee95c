import DisplayGen.Source.Printer.Item

/-!
# Printed statements
-/

namespace DisplayGen.Source.Printer

open Text Text.Writer

/-- The expression is complete without the semicolon behind it. -/
def dropsSemicolon : Tree → Bool
  | .form .attributed [_, e] => dropsSemicolon e
  | .form .forLoop _ => true
  | .form .whileExpr _ => true
  | .form .ifExpr [_, _, .list [e]] => dropsSemicolon e
  | .form .ifExpr _ => true
  | _ => false

/-- A declaration of local variables. -/
def letStatement (p : Printers) (attributes t type value alternative : Tree) : Writer Unit := do
  outerAttributes p attributes
  let declared : Writer Unit := do
    text "let "
    p.pattern t
    optional ": " p.type type
    value.parts.forM (valueWith p)
  match alternative with
  | .list [.form .blockExpr [_, _, b]] =>
    flow 0 do
      declared
      space
      text "else "
    fence
    block step (smallBlock p (.list []) b)
  | _ => flow 0 declared
  text ";"
  newline

/-- A statement; whether it is the last one of its block. -/
def statement (p : Printers) (last : Bool) : Tree → Writer Unit
  | .node (.form f) children =>
    match f, children with
    | .letStatement, [attributes, t, type, value, alternative] =>
      letStatement p attributes t type value alternative
    | .exprStatement, [e, semicolon] => do
      flow 0 do
        p.expr true e
        if semicolon.isAbsent then
          if wantsSemicolon e then text ";"
        else
          unless dropsSemicolon e do text ";"
      newline
    | .macroStatement, [attributes, path, .tokens d ts, semicolon] => do
      outerAttributes p attributes
      call path d ts (!semicolon.isAbsent || (!last && d != .brace))
      newline
    | .emptyStatement, [] => pure ()
    | _, _ => fail
  | t => item p t

end DisplayGen.Source.Printer
