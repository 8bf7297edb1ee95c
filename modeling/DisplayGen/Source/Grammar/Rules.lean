import DisplayGen.Source.Reader

/-!
# The rules that refer to each other

Types contain expressions, expressions contain statements, statements contain items, and so on. The
readers of the grammar are written over a record `Rules` of the readers that they refer to; each
calls one of them only after it has taken a tree or has entered a group. `Precedence` orders the
operators of expressions.
-/

namespace DisplayGen.Source

/-- How tightly an operator binds, loosest first. -/
inductive Precedence where
  | jump
  | assign
  | range
  | or
  | and
  | let
  | compare
  | bitOr
  | bitXor
  | bitAnd
  | shift
  | sum
  | product
  | cast
  deriving DecidableEq, Repr, Inhabited

namespace Precedence

/-- The place of a precedence in the order. -/
def rank : Precedence → Nat
  | jump => 0
  | assign => 1
  | range => 2
  | or => 3
  | and => 4
  | .let => 5
  | compare => 6
  | bitOr => 7
  | bitXor => 8
  | bitAnd => 9
  | shift => 10
  | sum => 11
  | product => 12
  | cast => 13

end Precedence

/-- The readers that refer to each other. -/
structure Rules where
  /-- An expression; whether a struct literal may stand where a block could follow. -/
  expr : (structs : Bool) → Reader Tree
  /-- An expression without binary operators at its top. -/
  unary : (structs : Bool) → Reader Tree
  /-- The right operand of an operator of the given precedence. -/
  operand : (structs : Bool) → Precedence → Reader Tree
  /-- An expression at the beginning of a statement or match arm. -/
  statementExpr : Reader Tree
  /-- A type; whether `+` may join bounds at its top. -/
  type : (plus : Bool) → Reader Tree
  /-- A bound of a type; whether captures and `const` are admitted. -/
  bound : (captures constants : Bool) → Reader Tree
  /-- A generic parameter. -/
  genericParam : Reader Tree
  /-- A pattern without alternatives at its top. -/
  pattern : Reader Tree
  /-- The statements up to the end. -/
  statements : Reader (List Tree)
  /-- An item. -/
  item : Reader Tree
  /-- A named field among the fields of a field without name. -/
  nestedField : Reader Tree
  /-- The tree of a `use` declaration, or nothing if it is one that is accepted but has no meaning;
  whether a branch may begin with `::`. -/
  useTree : (rooted : Bool) → Reader (Option UseTree)

namespace Rules

/-- Rules that accept nothing. -/
def none : Rules where
  expr _ := .reject
  unary _ := .reject
  operand _ _ := .reject
  statementExpr := .reject
  type _ := .reject
  bound _ _ := .reject
  genericParam := .reject
  pattern := .reject
  statements := .reject
  item := .reject
  nestedField := .reject
  useTree _ := .reject

end Rules

namespace Reader

/-- The word as a part that may be left out. -/
def wordPart (w : String) (h : isSpelling false w = true := by exact Eq.refl true) : Reader Tree := do
  if ← word? w then return .list [.word w h] else return .list []

/-- A lifetime as a part that may be left out. -/
def lifetimePart : Reader Tree := do
  if ← sees Peek.lifetime then return .list [.lifetime (← lifetime)] else return .list []

/-- What is read if the question about what comes next is answered yes, as a part that may be left
out. -/
def part (q : List TokenTree → Bool) (p : Reader Tree) : Reader Tree := do
  if ← sees q then return .list [← p] else return .list []

/-- What is read behind an operator, as a part that is left out with the operator. -/
def partAfter (o : String) (p : Reader Tree) : Reader Tree := do
  if ← op? o then return .list [← p] else return .list []

/-- A literal as leaves. -/
def literalLeaves : Reader (List Tree) := do
  return (← literal).map .leaf

end Reader

end DisplayGen.Source
