import DisplayGen.Source.Token

/-!
# Syntax trees

Source text is a tree of nodes. The label of a node says what it is, and carries what later stages
ask of a declaration: its name, its attributes, its fields. The children hold everything else, in
the order in which a traversal visits them: attributes first, then generics with their bounds and
conditions, then the remaining parts as written. What stands in the brackets of a macro call is a
leaf, since it is not read as source.

A node of one form always has the same number of children; what may be repeated or left out is a
node of the form `list`. The readers of the grammar say for each form which children it has.
-/

namespace DisplayGen.Source

/-- A path without arguments, as in attributes. -/
structure SimplePath where
  leadingColon : Bool
  segments : List Ident
  deriving DecidableEq, Repr, Inhabited

/-- Who may see an item or field: everyone, those a restriction names, or the own module. -/
inductive Visibility where
  | everyone
  | restricted
  | inherited
  deriving DecidableEq, Repr, Inhabited

/-- The head of an attribute: its form and its path. -/
structure AttributeHead where
  inner : Bool
  path : SimplePath
  deriving DecidableEq, Repr, Inhabited

/-- A named field of a struct. -/
structure FieldHead where
  visibility : Visibility
  name : Ident
  deriving DecidableEq, Repr, Inhabited

/-- The fields of a struct: with names, by position, or none at all. -/
inductive Fields where
  | named (fields : List FieldHead)
  | positional
  | unit
  deriving DecidableEq, Repr, Inhabited

/-- What a struct declaration says about itself. -/
structure StructHead where
  attributes : List AttributeHead
  visibility : Visibility
  name : Ident
  fields : Fields
  deriving DecidableEq, Repr, Inhabited

/-- The tree of a `use` declaration. -/
inductive UseTree where
  /-- `name::tree` -/
  | path (name : Ident) (tree : UseTree)
  /-- `name` -/
  | name (name : Ident)
  /-- `name as bound` -/
  | rename (name bound : Ident)
  /-- `*` -/
  | glob
  /-- Several trees between braces. -/
  | group (trees : List UseTree)
  deriving Inhabited

/-- Declarations of which only the name matters to name resolution. -/
inductive NamedKind where
  | enum
  | union
  | trait
  | traitAlias
  | typeAlias
  | function
  | constant
  | static
  | externCrate
  deriving DecidableEq, Repr, Inhabited

/-- Forms of nodes that declare no item. -/
inductive Form where
  /-- Parts of one kind, as many as there are. A part that is left out is an empty list. -/
  | list
  /-- Attributes and visibility. -/
  | visibility
  /-- Generic parameters, their bounds and conditions. -/
  | typeParam
  | lifetimeParam
  | constParam
  | binder
  | typePredicate
  | lifetimePredicate
  | traitBound
  | parenBound
  | preciseCapture
  | lifetime
  /-- Paths. -/
  | path
  | segment
  | angleArgs
  | parenArgs
  | assocType
  | assocConst
  | assocBound
  | qualifiedSelf
  /-- Types. -/
  | tupleType
  | parenType
  | traitObject
  | implTrait
  | functionType
  | pathType
  | macroType
  | arrayType
  | sliceType
  | pointerType
  | referenceType
  | neverType
  | inferType
  | abi
  | argument
  /-- Patterns. -/
  | wildPattern
  | identPattern
  | literalPattern
  | pathPattern
  | macroPattern
  | structPattern
  | tupleStructPattern
  | rangePattern
  | referencePattern
  | parenPattern
  | tuplePattern
  | slicePattern
  | restPattern
  | orPattern
  | constPattern
  | typedPattern
  | fieldPattern
  /-- Expressions. -/
  | array
  | assign
  | asyncBlock
  | await
  | binary
  | blockExpr
  | breakExpr
  | call
  | cast
  | closure
  | constBlock
  | continueExpr
  | fieldAccess
  | forLoop
  | ifExpr
  | index
  | inferExpr
  | letExpr
  | literalExpr
  | loopExpr
  | macroExpr
  | matchExpr
  | matchArm
  | methodCall
  | parenExpr
  | pathExpr
  | rangeExpr
  | rawAddress
  | reference
  | repeat
  | returnExpr
  | structExpr
  | fieldValue
  | tryExpr
  | tryBlock
  | tuple
  | unary
  | unsafeBlock
  | whileExpr
  | yieldExpr
  | operator
  | attributed
  /-- Statements. -/
  | letStatement
  | exprStatement
  | macroStatement
  | emptyStatement
  /-- Parts of items. -/
  | signature
  | receiver
  | typedArgument
  | variadic
  | namedFields
  | positionalFields
  | field
  | variant
  /-- Members of traits, implementations and blocks of foreign declarations. -/
  | memberMacro
  | traitFunction
  | traitConst
  | traitType
  | implFunction
  | implConst
  | implType
  | foreignFunction
  | foreignStatic
  | foreignType
  /-- Source that is accepted and kept as tokens. -/
  | uninterpreted
  deriving DecidableEq, Repr, Inhabited

/-- What a node is. -/
inductive Label where
  /-- An attribute; the value of `name = value` is its child. -/
  | attribute (head : AttributeHead)
  /-- A struct declaration. -/
  | struct (head : StructHead)
  /-- A module; `inline` if its content stands between braces. -/
  | module (name : Ident) (inline : Bool)
  /-- A `use` declaration. -/
  | use (leadingColon : Bool) (tree : UseTree)
  /-- Another declaration with a name. -/
  | named (kind : NamedKind) (name : Ident)
  /-- A macro call in the place of an item, with the name that it may give to what it defines. -/
  | macroItem (name : Option Ident)
  /-- An implementation; `trait` if it is one of a trait. -/
  | implementation (ofTrait : Bool)
  /-- A block of foreign declarations. -/
  | foreignBlock
  /-- A block of statements. -/
  | block
  /-- A node that declares nothing. -/
  | form (f : Form)
  deriving Inhabited

/-- A syntax tree. -/
inductive Tree where
  | leaf (t : TokenTree)
  | node (label : Label) (children : List Tree)
  deriving Inhabited

namespace Tree

/-- A node that declares nothing. -/
@[match_pattern] def form (f : Form) (children : List Tree) : Tree := .node (.form f) children

/-- Parts of one kind. -/
@[match_pattern] def list (parts : List Tree) : Tree := .node (.form .list) parts

/-- The leaf of an identifier. -/
@[match_pattern] def ident (i : Ident) : Tree := .leaf (.ident i)

/-- The leaf of a group of tokens that are not read. -/
@[match_pattern] def tokens (d : Delimiter) (content : List TokenTree) : Tree :=
  .leaf (.group d content)

/-- The leaf of a word. -/
def word (w : String) (h : isSpelling false w = true := by exact Eq.refl true) : Tree := .leaf (.word w h)

/-- The leaf of a punctuation character. -/
def punct (c : Char) : Tree := .leaf (.punct c false)

/-- A lifetime. -/
@[match_pattern] def lifetime (i : Ident) : Tree := form .lifetime [ident i]

/-- An operator, one leaf for each of its characters. -/
def operator (s : String) : Tree := form .operator (s.toList.map punct)

/-- Source that is kept as tokens. -/
def uninterpreted : Tree := form .uninterpreted []

/-- The parts of one kind, if that is what the tree is. -/
def parts : Tree → List Tree
  | list ts => ts
  | _ => []

/-- A part is left out. -/
def isAbsent : Tree → Bool
  | list [] => true
  | _ => false

/-- An expression without the attributes in front of it. -/
def bare : Tree → Tree
  | form .attributed [_, e] => e
  | e => e

/-- The attributes in front of an expression. -/
def attributes : Tree → List Tree
  | form .attributed [list as, _] => as
  | _ => []

/-- The node is of the given form. -/
def isForm (f : Form) : Tree → Bool
  | .node (.form g) _ => f == g
  | _ => false

mutual

/-- How deep the nodes of a tree nest. -/
def depth : Tree → Nat
  | leaf _ => 0
  | node _ children => depthOfAll children + 1

/-- How deep the nodes of several trees nest. -/
def depthOfAll : List Tree → Nat
  | [] => 0
  | t :: ts => max (depth t) (depthOfAll ts)

end

end Tree

/-- A path without arguments as a tree. Its leading `::` is a leaf in front of its segments. -/
def SimplePath.toTree (p : SimplePath) : Tree :=
  .form .path ((if p.leadingColon then [.punct ':'] else []) ++
    p.segments.map fun i => .form .segment [.ident i])

end DisplayGen.Source
