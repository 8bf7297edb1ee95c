import DisplayGen.Source.Grammar
import DisplayGen.Source.Lexer
import DisplayGen.Source.WrittenPath

/-!
# Fragments of source text

A fragment is a text that holds one thing and nothing else: an identifier, a path, a visibility or
an item.
-/

namespace DisplayGen.Source

/-- Reads a whole text with a reader that may use the rules of the grammar. -/
def readFragment? {α : Type} (p : Rules → Reader α) (text : String) : Option α :=
  match TokenTree.scan? text.toList with
  | some ts => Reader.whole? (p (Grammar.rulesFor ts)) ts
  | none => none

/-- The identifier that a text holds. Reserved words are not identifiers unless raw. -/
def Ident.read? : String → Option Ident := readFragment? fun _ => Reader.name

/-- The path that a text holds; its segments may have arguments. -/
def WrittenPath.read? : String → Option WrittenPath :=
  readFragment? fun r => do return (← Grammar.path r false).toWritten

/-- The visibility that a text holds; an empty text is the visibility of the own module. -/
def Visibility.read? : String → Option Visibility :=
  readFragment? fun _ => do return (← Grammar.visibility).1

/-- The item that a text holds. -/
def readItem? : String → Option Tree := readFragment? Grammar.item

end DisplayGen.Source
