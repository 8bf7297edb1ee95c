import DisplayGen.Source.Tree
import DisplayGen.Text.Document

/-!
# The printers that refer to each other

Like its readers, the printers of the grammar are written over a record (`Printers`) of those that
they refer to. A printer fails on source that is not interpreted.
-/

namespace DisplayGen.Source

open Text Text.Writer

/-- The printers that refer to each other. -/
structure Printers where
  /-- An expression; whether it stands at the beginning of a line. -/
  expr : (start : Bool) → Tree → Writer Unit
  /-- An expression that a field, call or the like follows. -/
  link : (start : Bool) → Tree → Writer Unit
  /-- A type. -/
  type : Tree → Writer Unit
  /-- A generic argument. -/
  argument : Tree → Writer Unit
  /-- A bound of a type. -/
  bound : Tree → Writer Unit
  /-- A pattern. -/
  pattern : Tree → Writer Unit
  /-- A statement; whether it is the last one of its block. -/
  statement : (last : Bool) → Tree → Writer Unit
  /-- An item. -/
  item : Tree → Writer Unit

/-- Printers of nothing. -/
def Printers.none : Printers where
  expr _ _ := fail
  link _ _ := fail
  type _ := fail
  argument _ := fail
  bound _ := fail
  pattern _ := fail
  statement _ _ := fail
  item _ := fail

namespace Printer

/-- An identifier as written. -/
def ident (i : Ident) : Writer Unit := text i.written

/-- The tree of an identifier. -/
def name : Tree → Writer Unit
  | .ident i => ident i
  | _ => fail

/-- A lifetime. -/
def lifetime (i : Ident) : Writer Unit := do
  text "'"
  ident i

/-- The characters of the leaves of a literal or an operator. -/
def characters : List Tree → List Char
  | [] => []
  | .leaf (.literal l) :: ts => l.text ++ characters ts
  | .leaf (.punct c _) :: ts => c :: characters ts
  | .leaf (.ident i) :: ts => i.written.toList ++ characters ts
  | _ :: ts => characters ts

/-- The leaves of a literal or an operator as one word. -/
def leaves (ts : List Tree) : Writer Unit := text (String.ofList (characters ts))

/-- The text if the part is there. -/
def mark (t : String) (part : Tree) : Writer Unit := if part.isAbsent then pure () else text t

/-- The part behind a text, if it is there. -/
def optional (before : String) (print : Tree → Writer Unit) : Tree → Writer Unit
  | .list [t] => do
    text before
    print t
  | _ => pure ()

/-- The elements of a list between brackets, which stand on lines of their own if they do not fit.
-/
def bracketed (opening closing : String) (print : Tree → Writer Unit) (elements : List Tree) :
    Writer Unit := do
  text opening
  block step do
    cut
    elements |> each fun last t => do
      print t
      comma last
    outdent
  text closing

/-- The elements of a tuple, of which a lone one may have a comma behind it. -/
def tupled (loneComma : Bool) (print : Tree → Writer Unit) : List Tree → Writer Unit
  | [t] => do
    text "("
    block step do
      cut
      print t
      if loneComma then text ","
      cut
      outdent
    text ")"
  | ts => bracketed "(" ")" print ts

end Printer

end DisplayGen.Source
