import DisplayGen.Source.Grammar.Rules

/-!
# Attributes and visibility

An attribute is `#[path]`, `#[path(tokens)]` or `#[path = value]`; an inner one has `!` after the
number sign. The tokens between brackets are not read.
-/

namespace DisplayGen.Source.Grammar

open Reader

/-- A segment of a path without arguments. -/
def pathWord : Reader Ident := do
  let i ← anyWord
  if i.isName || (!i.raw && ["super", "self", "Self", "crate"].contains i.name) then return i
  else reject

/-- A path without arguments. -/
def simplePath : Reader SimplePath := do
  let leading ← op? "::"
  let first ← pathWord
  let more ← repeatedly (Peek.op "::") (do op "::"; pathWord)
  return ⟨leading, first :: more⟩

/-- The value of an attribute: one literal alone, or an expression without attributes of its own. -/
def attributeValue (r : Rules) : Reader Tree := do
  let lone ← ahead (do let l ← literalLeaves; if ← atEnd then return l else reject)
  match lone with
  | some _ => return .form .literalExpr (← literalLeaves)
  | none =>
    if ← sees (fun ts => Peek.op "#" ts && Peek.second (Peek.group .bracket) ts) then reject
    else r.expr true

/-- The content of an attribute's brackets: its only child is a group of tokens or the value. -/
def attributeContent (r : Rules) (inner : Bool) : Reader Tree := do
  let path ← if ← word? "unsafe" then pure ⟨false, [.plain "unsafe"]⟩ else simplePath
  let head : AttributeHead := ⟨inner, path⟩
  if ← sees (fun ts => Peek.group .paren ts || Peek.group .bracket ts || Peek.group .brace ts) then
    let (d, ts) ← anyGroup
    return .node (.attribute head) [.tokens d ts]
  else if ← op? "=" then return .node (.attribute head) [← attributeValue r]
  else return .node (.attribute head) []

/-- The attributes that belong to what follows. -/
def outerAttributes (r : Rules) : Reader (List Tree) :=
  repeatedly (Peek.op "#") (do
    op "#"
    inside .bracket (attributeContent r false))

/-- The attributes at the beginning of a body that belong to the body's owner. -/
def innerAttributes (r : Rules) : Reader (List Tree) :=
  repeatedly (fun ts => Peek.op "#" ts && Peek.second (Peek.op "!") ts) (do
    op "#"
    op "!"
    inside .bracket (attributeContent r true))

/-- The heads of attributes. -/
def attributeHeads (attributes : List Tree) : List AttributeHead :=
  attributes.filterMap fun
    | .node (.attribute h) _ => some h
    | _ => none

/-- What stands between the brackets after `pub`, if it restricts the visibility. A type in brackets
may stand there instead, and is left alone. -/
def restriction (ts : List TokenTree) : Option (Option SimplePath) :=
  let keyword (w : String) := w == "crate" || w == "self" || w == "super"
  match ts with
  | .group .paren content :: _ =>
    match content with
    | [.ident i] => if !i.raw && keyword i.name then some (some ⟨false, [i]⟩) else some none
    | .ident i :: rest =>
      if i.isWord "in" then
        match whole? simplePath rest with
        | some p => some (some p)
        | none => none
      else some none
    | _ => some none
  | _ => some none

/-- The visibility of an item or field, and its tree: the word and the path that restricts it. -/
def visibility : Reader (Visibility × Tree) := do
  if ← word? "pub" then
    match restriction (← pending) with
    | some (some path) =>
      let _ ← anyGroup
      return (.restricted, .form .visibility [.word "pub", path.toTree])
    | some none => return (.everyone, .form .visibility [.word "pub"])
    | none => reject
  else return (.inherited, .form .visibility [])

end DisplayGen.Source.Grammar
