import DisplayGen.Source.Grammar.Statement

/-!
# The grammar

The readers of the grammar refer to each other through a record of rules. Here that record is built
from them: `rulesAt n` are the rules for source that nests at most `n` deep. A reader takes a tree
or enters a group before it calls a rule, so the number of tokens bounds the depth (`rulesFor`).
-/

namespace DisplayGen.Source.Grammar

/-- The rules over given rules for what is nested in them. -/
def step (r : Rules) : Rules where
  expr := expr r
  unary := unary r
  operand := operand r
  statementExpr := statementExpr r
  type := type r
  bound := bound r
  genericParam := genericParam r
  pattern := pattern r
  statements := statements r
  item := item r
  nestedField := do return (← namedField r).2
  useTree := useTree r

/-- The rules for source that nests at most `n` deep. -/
def rulesAt : Nat → Rules
  | 0 => .none
  | n + 1 => step (rulesAt n)

/-- The rules for the given trees. -/
def rulesFor (ts : List TokenTree) : Rules := rulesAt (TokenTree.sizeAll ts + 1)

end DisplayGen.Source.Grammar
