import DisplayGen.Emission.Template
import DisplayGen.Error
import DisplayGen.Source.Fragment
import DisplayGen.Text.Escape
import DisplayGen.Text.Layout

/-!
# Generated code

The code that is generated for a summary: an implementation whose only function writes the format
string of the template with the fields as arguments.
-/

namespace DisplayGen

open Source
open Text (Piece margin inOneOrTwo bracketed unlines)

/-- The identifier for a name, raw where the name is a reserved word. -/
def identFor (name : String) : Except GenerationError Ident :=
  let bare := Text.unraw name
  match Ident.read? bare with
  | some i => .ok i
  | none =>
    match Ident.read? ("r#" ++ bare) with
    | some i => .ok i
    | none => .error (.invalidIdentifier bare)

/-- What the generated code mentions: the type, the format string, and the fields. -/
structure DisplayCode where
  type : Ident
  format : String
  fields : List Ident
  deriving DecidableEq, Repr, Inhabited

namespace DisplayCode

/-- The code for a summary, if all its names can be written. -/
def ofSummary (s : Summary) : Except GenerationError DisplayCode := do
  let type ← identFor s.typeName
  let fields ← s.memberNames.mapM identFor
  return ⟨type, (Template.ofSummary s).formatString, fields⟩

/-- The format string as a literal. -/
def literal (c : DisplayCode) : String := String.ofList (Text.quoteLiteral c.format.toList)

/-- The pieces of the arguments from the fields on: a line may break before the point of a field. -/
def fieldPieces : List Ident → List Piece
  | [] => []
  | [i] => [⟨true, "self"⟩, ⟨false, "." ++ i.written⟩]
  | i :: j :: is => ⟨true, "self"⟩ :: ⟨false, "." ++ i.written ++ ","⟩ :: fieldPieces (j :: is)

/-- The pieces of the arguments. -/
def pieces (c : DisplayCode) : List Piece :=
  ⟨true, "f,"⟩ :: ⟨true, if c.fields.isEmpty then c.literal else c.literal ++ ","⟩ :: fieldPieces c.fields

/-- The lines of the call that writes, one if it fits. -/
def callLines (c : DisplayCode) : List String := bracketed 8 "::core::write!(" ")" c.pieces

/-- The lines of the implementation's head, one if it fits. -/
def headLines (c : DisplayCode) : List String :=
  inOneOrTwo 0 "impl ::core::fmt::Display" ("for " ++ c.type.written ++ " \x7b")

/-- The lines of the code. -/
def lines (c : DisplayCode) : List String :=
  ["#[automatically_derived]"] ++ c.headLines ++
    [margin 4 ++ "fn fmt(&self, f: &mut ::core::fmt::Formatter<'_>) -> ::core::fmt::Result \x7b"] ++
    c.callLines ++ [margin 4 ++ "\x7d", "\x7d"]

/-- The code as a text. -/
def render (c : DisplayCode) : String := unlines c.lines

end DisplayCode

end DisplayGen
