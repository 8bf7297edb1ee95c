import DisplayGen.Source.Number
import DisplayGen.Source.Printer.Type

/-!
# Printed patterns
-/

namespace DisplayGen.Source.Printer

open Text Text.Writer

/-- The name or position of a field. -/
def member : Tree → Writer Unit
  | .ident i => ident i
  | .leaf (.literal l) =>
    match position? l.text with
    | some n => text (toString n)
    | none => fail
  | _ => fail

/-- A field of a struct pattern. -/
def fieldPattern (p : Printers) : Tree → Writer Unit
  | .form .fieldPattern [attributes, m, t] => do
    outerAttributes p attributes
    m.parts.forM fun t => do
      member t
      text ": "
    p.pattern t
  | _ => fail

/-- A pattern that is no more than one word, so that several of them may share a line. -/
def isPlain (t : Tree) : Bool := t.isForm .literalPattern || t.isForm .wildPattern

/-- What fields have not been named. -/
def restPattern (p : Printers) : Tree → Writer Unit
  | .form .restPattern [attributes] => do
    outerAttributes p attributes
    text ".."
  | _ => fail

/-- A pattern from its form and its parts. -/
def patternOf (p : Printers) (f : Form) (children : List Tree) : Writer Unit :=
  match f, children with
  | .wildPattern, [] => text "_"
  | .identPattern, [byRef, mutable, i, sub] => do
    mark "ref " byRef
    mark "mut " mutable
    name i
    optional " @ " p.pattern sub
  | .literalPattern, ls => leaves ls
  | .pathPattern, parts => qualifiedPath p true parts
  | .macroPattern, [t, .tokens d ts] => call t d ts false
  | .constPattern, [t] => p.expr false t
  | .structPattern, [parts, fields, rest] => do
    block step do
      qualifiedPath p true parts.parts
      text " \x7b"
      spaceUnlessEnd
      fields.parts |> each fun last t => do
        fieldPattern p t
        commaOrSpace (last && rest.isAbsent)
      rest.parts.forM fun t => do
        restPattern p t
        space
      outdent
    text "\x7d"
  | .tupleStructPattern, [parts, elements] => do
    qualifiedPath p true parts.parts
    bracketed "(" ")" p.pattern elements.parts
  | .rangePattern, [start, .form .operator op, stop] => do
    start.parts.forM p.pattern
    if start.isAbsent && (← endsWith '.') then blank
    leaves op
    stop.parts.forM p.pattern
  | .referencePattern, [mutable, t] => do
    text "&"
    mark "mut " mutable
    p.pattern t
  | .parenPattern, [t] => do
    text "("
    p.pattern t
    text ")"
  | .tuplePattern, [elements, trailing] => tupled (!trailing.isAbsent) p.pattern elements.parts
  | .slicePattern, elements => do
    text "["
    elements |> each fun last t => do
      p.pattern t
      comma last
    text "]"
  | .restPattern, [attributes] => restPattern p (.form .restPattern [attributes])
  | .orPattern, cases =>
    group 0 (if cases.all isPlain then .inconsistent else .consistent)
      (cases |> joined (pure ()) (do space; text "| ") p.pattern)
  | .typedPattern, [attributes, t, type] => do
    outerAttributes p attributes
    p.pattern t
    optional ": " p.type type
  | _, _ => fail

/-- A pattern. -/
def pattern (p : Printers) : Tree → Writer Unit
  | .node (.form f) children => patternOf p f children
  | _ => fail

end DisplayGen.Source.Printer
