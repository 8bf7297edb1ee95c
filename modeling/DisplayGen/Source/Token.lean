import DisplayGen.Source.Ident

/-!
# Tokens

Source text is a sequence of tokens. Brackets nest: a sequence of token trees is the same text with
each pair of brackets and what stands between them taken as one tree (`TokenTree.nest?`).
-/

namespace DisplayGen.Source

/-- The three pairs of brackets. -/
inductive Delimiter where
  | paren
  | bracket
  | brace
  deriving DecidableEq, Repr, Inhabited

/-- What a literal denotes. `placeholder` is the text `(/*ERROR*/)`, one token that stands for code
which could not be written out. -/
inductive LiteralKind where
  | string
  | byteString
  | cString
  | byte
  | char
  | number
  | placeholder
  deriving DecidableEq, Repr, Inhabited

/-- A literal as written, suffix included. -/
structure Literal where
  kind : LiteralKind
  text : List Char
  deriving DecidableEq, Repr, Inhabited

/-- One token. A punctuation character is `joint` if another one follows it at once. -/
inductive Token where
  | ident (i : Ident)
  | punct (c : Char) (joint : Bool)
  | literal (l : Literal)
  | opening (d : Delimiter)
  | closing (d : Delimiter)
  deriving DecidableEq, Repr, Inhabited

/-- A token, or a bracketed group of token trees. -/
inductive TokenTree where
  | ident (i : Ident)
  | punct (c : Char) (joint : Bool)
  | literal (l : Literal)
  | group (d : Delimiter) (content : List TokenTree)
  deriving Inhabited

namespace TokenTree

/-- The tree of a single word. -/
def word (w : String) (h : isSpelling false w = true := by exact Eq.refl true) : TokenTree := .ident (.plain w h)

mutual

/-- The number of tokens in a tree, brackets included. -/
def size : TokenTree → Nat
  | .group _ content => sizeAll content + 2
  | _ => 1

/-- The number of tokens in a sequence of trees. -/
def sizeAll : List TokenTree → Nat
  | [] => 0
  | t :: ts => size t + sizeAll ts

end

/-- A bracket that is still open: its kind and the trees before it, latest first. -/
abbrev OpenGroup := Delimiter × List TokenTree

/-- Reads tokens into trees. `done` holds the trees of the innermost open bracket, latest first. -/
def nestFrom (outer : List OpenGroup) (done : List TokenTree) : List Token → Option (List TokenTree)
  | [] => if outer.isEmpty then some done.reverse else none
  | .ident i :: ts => nestFrom outer (.ident i :: done) ts
  | .punct c j :: ts => nestFrom outer (.punct c j :: done) ts
  | .literal l :: ts => nestFrom outer (.literal l :: done) ts
  | .opening d :: ts => nestFrom ((d, done) :: outer) [] ts
  | .closing d :: ts =>
    match outer with
    | [] => none
    | (d', before) :: outer' =>
      if d = d' then nestFrom outer' (.group d done.reverse :: before) ts else none

/-- The token trees of a sequence of tokens, unless its brackets do not match. -/
def nest? (ts : List Token) : Option (List TokenTree) := nestFrom [] [] ts

end TokenTree

end DisplayGen.Source
