import DisplayGen.Source.Literal
import DisplayGen.Source.Printer.Call

/-!
# Printed attributes

An attribute that holds documentation is printed as the comment that it stands for, unless the text
would read as something else. So is one that holds a comment.
-/

namespace DisplayGen.Source.Printer

open Text Text.Writer

/-! ## Comments -/

/-- A text without the blanks at its end. -/
def trimEnd (cs : List Char) : List Char := (cs.reverse.dropWhile (· == ' ')).reverse

/-- A text without the blanks at the ends of its lines, except those of the last one. -/
def trimLines (cs : List Char) : List Char :=
  match (splitAtChar '\n' cs).reverse with
  | [] => []
  | last :: before => before.reverse.flatMap (fun line => trimEnd line ++ ['\n']) ++ last

/-- Comments open and close each other in the text, of which the given number is open. -/
def commentsMatch (depth : Nat) : List Char → Bool
  | '/' :: '*' :: cs => commentsMatch (depth + 1) cs
  | '*' :: '/' :: cs => 0 < depth && commentsMatch (depth - 1) cs
  | _ :: cs => commentsMatch depth cs
  | [] => depth == 0

/-- The text may stand between the marks of a comment of several lines. -/
def fitsComment (cs : List Char) : Bool := commentsMatch 0 cs && cs.getLast? != some '/'

/-- The kinds of comments: they belong to what follows, to what they stand in, or to nothing. -/
inductive CommentKind where
  | outer
  | inner
  | plain
  deriving DecidableEq, Repr

/-- What a comment of one line begins with. -/
def CommentKind.lineMark : CommentKind → String
  | outer => "///"
  | inner => "//!"
  | plain => "//"

/-- What a comment of several lines begins with. -/
def CommentKind.blockMark : CommentKind → String
  | outer => "/**"
  | inner => "/*!"
  | plain => "/*"

/-- Characters with which the text of a comment of one line does not begin. -/
def CommentKind.notInLine : CommentKind → List Char
  | outer => ['/']
  | inner => []
  | plain => []

/-- Characters with which the text of a comment of several lines does not begin. -/
def CommentKind.notInBlock : CommentKind → List Char
  | outer => ['*', '/']
  | inner => []
  | plain => ['*', '!']

/-- The text does not begin with one of the characters. -/
def avoids (bad : List Char) : List Char → Bool
  | c :: _ => !bad.contains c
  | [] => true

/-- The comment with the given text, if there is one. -/
def CommentKind.comment? (k : CommentKind) (cs : List Char) : Option String :=
  if !cs.contains '\n' && avoids k.notInLine cs then some (k.lineMark ++ String.ofList (trimEnd cs))
  else if fitsComment cs && avoids k.notInBlock cs then
    some (k.blockMark ++ String.ofList (trimLines cs) ++ "*/")
  else none

/-- The text that an attribute `name = "text"` gives to a name. -/
def textOf? (head : AttributeHead) (children : List Tree) (w : String) : Option (List Char) :=
  match head.path, children with
  | ⟨false, [i]⟩, [.form .literalExpr [.leaf (.literal l)]] => if i.isWord w then l.value? else none
  | _, _ => none

/-- The comment that an attribute stands for. -/
def comment? (head : AttributeHead) (children : List Tree) : Option String :=
  match textOf? head children "doc" with
  | some cs => (if head.inner then CommentKind.inner else .outer).comment? cs
  | none =>
    match textOf? head children "comment" with
    | some cs => CommentKind.plain.comment? cs
    | none => none

/-! ## Attributes -/

/-- What the last token of an attribute was, as far as the next one is concerned. -/
inductive AttributeSpot where
  | word
  | sign
  | lastComma
  deriving DecidableEq, Repr

mutual

/-- A token of an attribute; whether it is the last one between its brackets. -/
def attributeToken (last : Bool) (s : AttributeSpot) : TokenTree → Writer AttributeSpot
  | .ident i => do
    if s = .word then space
    ident i
    return .word
  | .literal l => do
    if s = .word then space
    text (String.ofList l.text)
    return .word
  | .punct c _ => do
    if s = .word && c = '=' then blank
    if c = ',' && last then
      comma true
      return .lastComma
    else
      text (String.singleton c)
      if c = '=' then blank
      else if c = ',' then space
      return .sign
  | .group .paren content => do
    text "("
    block step do
      cut
      let s ← attributeTokens .sign content
      if s != .lastComma then cut
      outdent
    text ")"
    return .sign
  | .group d content => do
    text (opening d)
    let _ ← attributeTokens .sign content
    text (closing d)
    return .sign

/-- The tokens between the brackets of an attribute. -/
def attributeTokens (s : AttributeSpot) : List TokenTree → Writer AttributeSpot
  | [] => return s
  | t :: ts => do attributeTokens (← attributeToken ts.isEmpty s t) ts

end

/-- What stands in the brackets of an attribute. -/
def attributeContent (p : Printers) (head : AttributeHead) (children : List Tree) : Writer Unit := do
  simplePath head.path.toTree
  match children with
  | [] => pure ()
  | [.tokens d ts] =>
    let _ ← attributeToken true .word (.group d ts)
  | [value] =>
    text " = "
    p.expr false value
  | _ => fail

/-- An attribute. -/
def attributeLine (p : Printers) : Tree → Writer Unit
  | .node (.attribute head) children =>
    match comment? head children with
    | some c => do
      text c
      newline
    | none => do
      text (if head.inner then "#![" else "#[")
      attributeContent p head children
      text "]"
      space
  | _ => fail

/-- The tree is an attribute of what it stands in. -/
def isInner : Tree → Bool
  | .node (.attribute head) _ => head.inner
  | _ => false

/-- The attributes that belong to what follows. -/
def outerAttributes (p : Printers) (attributes : Tree) : Writer Unit :=
  (attributes.parts.filter fun a => !isInner a).forM (attributeLine p)

/-- The attributes that belong to what they stand in. -/
def innerAttributes (p : Printers) (attributes : Tree) : Writer Unit :=
  (attributes.parts.filter isInner).forM (attributeLine p)

/-- The visibility of an item or field. A path that is one of the words for near modules needs no
`in`. -/
def visibility : Tree → Writer Unit
  | .form .visibility [] => pure ()
  | .form .visibility [_] => text "pub "
  | .form .visibility [_, path] => do
    text (if ["self", "super", "crate"].any (isLoneWord · path) then "pub(" else "pub(in ")
    simplePath path
    text ") "
  | _ => fail

end DisplayGen.Source.Printer
