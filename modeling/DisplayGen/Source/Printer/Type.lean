import DisplayGen.Source.Printer.Path

/-!
# Printed types

A trait object is printed with `dyn`, also where that was left out.
-/

namespace DisplayGen.Source.Printer

open Text Text.Writer

/-- A foreign calling convention, with a blank behind it. -/
def abi : Tree → Writer Unit
  | .list [.form .abi []] => text "extern "
  | .list [.form .abi ls] => do
    text "extern "
    leaves ls
    blank
  | _ => pure ()

/-- The elements of a list of arguments between round brackets, of which the last may stand for any
number of them. -/
def argumentList (print : Tree → Writer Unit) (args rest : Tree) : Writer Unit := do
  args.parts |> each fun last t => do
    print t
    comma (last && rest.isAbsent)
  rest.parts.forM fun t => do
    print t
    cut
  outdent

/-- An argument of a function type, or what stands for any number of them. -/
def functionTypeArgument (p : Printers) : Tree → Writer Unit
  | .form .argument [attributes, i, type] => do
    outerAttributes p attributes
    i.parts.forM fun t => do
      name t
      text ": "
    p.type type
  | .form .variadic [attributes, i] => do
    outerAttributes p attributes
    i.parts.forM fun t => do
      name t
      text ": "
    text "..."
  | _ => fail

/-- A type from its form and its parts. -/
def typeOf (p : Printers) (f : Form) (children : List Tree) : Writer Unit :=
  match f, children with
  | .pathType, parts => qualifiedPath p false parts
  | .tupleType, types => tupled true p.type types
  | .parenType, [t] => do
    text "("
    p.type t
    text ")"
  | .traitObject, [_, bounds, _] => do
    text "dyn "
    plainBounds p (pure ()) bounds
  | .implTrait, bounds => do
    text "impl "
    plainBounds p (pure ()) (.list bounds)
  | .functionType, [params, unsafety, convention, args, rest, result] => do
    binder p params
    mark "unsafe " unsafety
    abi convention
    text "fn("
    block step do
      cut
      argumentList (functionTypeArgument p) args rest
    text ")"
    output p result
  | .macroType, [t, .tokens d ts] => call t d ts false
  | .arrayType, [t, size] => do
    text "["
    p.type t
    text "; "
    p.expr false size
    text "]"
  | .sliceType, [t] => do
    text "["
    p.type t
    text "]"
  | .pointerType, [kind, t] => do
    text "*"
    name kind
    blank
    p.type t
  | .referenceType, [l, mutable, t] => do
    text "&"
    l.parts.forM fun
      | .lifetime i => do
        lifetime i
        blank
      | _ => fail
    mark "mut " mutable
    p.type t
  | .neverType, [] => text "!"
  | .inferType, [] => text "_"
  | _, _ => fail

/-- A type. -/
def type (p : Printers) : Tree → Writer Unit
  | .node (.form f) children => typeOf p f children
  | _ => fail

end DisplayGen.Source.Printer
