import DisplayGen.Source.File
import DisplayGen.Source.Printer.Statement
import DisplayGen.Text.Page

/-!
# Printed source

Source is printed from its tree, item by item, so that the blanks and line breaks of the text that
it was read from leave no trace. `printersAt n` are the printers for trees that nest at most `n`
deep; a printer goes one node deeper before it calls another one. `File.print?` is the text of a
file.
-/

namespace DisplayGen.Source

open Text Text.Writer

namespace Printer

/-- The printers over given printers for what is nested. -/
def deeper (p : Printers) : Printers where
  expr := expr p
  link := link p (expr p false)
  type := type p
  argument := genericArgument p
  bound := bound p
  pattern := pattern p
  statement := statement p
  item := item p

/-- The printers for trees that nest at most `n` deep. -/
def printersAt : Nat → Printers
  | 0 => .none
  | n + 1 => deeper (printersAt n)

end Printer

namespace File

/-- Writes a file: the attributes in it, and its items. -/
def write (f : File) : Writer Unit :=
  let p := Printer.printersAt (Tree.depthOfAll (f.attributes ++ f.items) + 1)
  block 0 do
    Printer.innerAttributes p (.list f.attributes)
    f.items.forM p.item

/-- The text of a file. There is none if part of it is not interpreted. -/
def print? (f : File) : Option String := f.write.toText?

end File

end DisplayGen.Source
