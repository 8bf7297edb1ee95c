import DisplayGen.Text.Chars

/-!
# Identifiers

An identifier is a word and the choice of writing it raw (`r#name`). Reserved words are identifiers
for the lexer and names only when written raw (`Ident.isName`).
-/

namespace DisplayGen.Source

/-- The words that cannot be used as names unless written raw. -/
def reservedWords : List String :=
  ["_", "abstract", "as", "async", "await", "become", "box", "break", "const", "continue", "crate",
   "do", "dyn", "else", "enum", "extern", "false", "final", "fn", "for", "if", "impl", "in", "let",
   "loop", "macro", "match", "mod", "move", "mut", "override", "priv", "pub", "ref", "return",
   "Self", "self", "static", "struct", "super", "trait", "true", "try", "type", "typeof", "unsafe",
   "unsized", "use", "virtual", "where", "while", "yield"]

/-- The words that stay reserved when written raw. -/
def neverRaw : List String := ["_", "super", "self", "Self", "crate"]

/-- The name can stand in source text as an identifier: it is a word, and if it is written raw, none
that stays reserved. -/
def isSpelling (raw : Bool) (name : String) : Bool :=
  Text.isWord name.toList && !(raw && neverRaw.contains name)

/-- An identifier as it stands in source text: `name` is without the `r#` of a raw one. -/
structure Ident where
  raw : Bool
  name : String
  spelled : isSpelling raw name = true
  deriving DecidableEq, Repr

namespace Ident

/-- The identifier of a name, if it can stand in source text. -/
def ofName? (raw : Bool) (name : String) : Option Ident :=
  if h : isSpelling raw name = true then some ⟨raw, name, h⟩ else none

/-- A word that is not written raw. -/
def plain (name : String) (h : isSpelling false name = true := by exact Eq.refl true) : Ident := ⟨false, name, h⟩

instance : Inhabited Ident := ⟨plain "_"⟩

/-- The identifier as written, with its `r#`. -/
def written (i : Ident) : String := if i.raw then "r#" ++ i.name else i.name

/-- The identifier can name something: it is raw or no reserved word. -/
def isName (i : Ident) : Bool := i.raw || !reservedWords.contains i.name

/-- The identifier is the given word, not written raw. -/
def isWord (i : Ident) (w : String) : Bool := !i.raw && i.name == w

end Ident

end DisplayGen.Source
