import DisplayGen.Source.Grammar
import DisplayGen.Source.Lexer

/-!
# Source files

A source file is a sequence of items behind the attributes of the file. A byte order mark at its
very beginning is dropped, and so is a first line that names an interpreter (`dropInterpreter`).
-/

namespace DisplayGen.Source

/-- A source file. -/
structure File where
  attributes : List Tree
  items : List Tree
  deriving Inhabited

namespace File

/-- The text without its first line, if that names an interpreter: it begins with `#!`, and what
comes next is not the bracket of an attribute. The line break stays. -/
def dropInterpreter : List Char → List Char
  | '#' :: '!' :: r =>
    match Lexer.skipTrivia r with
    | '[' :: _ => '#' :: '!' :: r
    | _ => (Lexer.splitLine r).2
  | cs => cs

/-- The file that a sequence of token trees makes. -/
def ofTokens? (ts : List TokenTree) : Option File :=
  let r := Grammar.rulesFor ts
  match Reader.whole? (Grammar.itemsOf r (Grammar.item r)) ts with
  | some (attributes, items) => some ⟨attributes, items⟩
  | none => none

/-- The file that a text makes. -/
def read? (text : String) : Option File :=
  match TokenTree.scan? (dropInterpreter (Lexer.dropMark text.toList)) with
  | some ts => ofTokens? ts
  | none => none

end File

end DisplayGen.Source
