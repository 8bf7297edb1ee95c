import DisplayGen.Source.Printer.Attribute

/-!
# Printed paths, bounds and generics

Among generic arguments and parameters the lifetimes come first. Each condition of an item stands on
a line of its own, except that those of a type declaration share the line if they fit.
-/

namespace DisplayGen.Source.Printer

open Text Text.Writer

/-- The tree is a lifetime or a parameter for one. -/
def isLifetime (t : Tree) : Bool := t.isForm .lifetime || t.isForm .lifetimeParam

/-- The lifetimes, and then the others. -/
def lifetimesFirst (ts : List Tree) : List Tree :=
  ts.filter isLifetime ++ ts.filter fun t => !isLifetime t

/-- Bounds that may be broken: what stands before the first, and each behind a `+`. -/
def breakableBounds (p : Printers) (first : Writer Unit) (bounds : Tree) : Writer Unit :=
  bounds.parts |> joined first (do space; text "+ ") p.bound

/-- Bounds that are not broken. -/
def plainBounds (p : Printers) (first : Writer Unit) (bounds : Tree) : Writer Unit :=
  bounds.parts |> joined first (text " + ") p.bound

/-- Generic arguments, which in an expression need `::` before them. Without arguments there is
nothing. -/
def angleArgs (p : Printers) (turbofish : Bool) (args : List Tree) : Writer Unit :=
  if args.isEmpty then pure ()
  else bracketed (if turbofish then "::<" else "<") ">" p.argument (lifetimesFirst args)

/-- The generic arguments behind the name of an associated type or constant. -/
def ownArguments (p : Printers) : Tree → Writer Unit
  | .list [] => pure ()
  | .list [.form .angleArgs args] => angleArgs p false args
  | _ => fail

/-- A result type. -/
def output (p : Printers) : Tree → Writer Unit := optional " -> " p.type

/-- A generic argument. -/
def genericArgument (p : Printers) : Tree → Writer Unit
  | .lifetime i => lifetime i
  | .node (.form f) children =>
    match f, children with
    | .assocType, [i, args, type] => do
      name i
      ownArguments p args
      text " = "
      p.type type
    | .assocConst, [i, args, value] => do
      name i
      ownArguments p args
      text " = "
      p.expr false value
    | .assocBound, [i, args, bounds] => do
      name i
      ownArguments p args
      flow step (breakableBounds p (text ": ") bounds)
    | .literalExpr, _ => p.expr false (.form f children)
    | .blockExpr, _ => p.expr false (.form f children)
    | .pathExpr, _ => p.expr false (.form f children)
    | _, _ => p.type (.form f children)
  | _ => fail

/-- The arguments of a segment. -/
def segmentArguments (p : Printers) (turbofish : Bool) : Tree → Writer Unit
  | .form .angleArgs args => angleArgs p turbofish args
  | .form .parenArgs [inputs, result] =>
    block step do
      text "("
      cut
      inputs.parts |> each fun last t => do
        p.type t
        comma last
      outdent
      text ")"
      output p result
  | _ => fail

/-- A segment of a path. -/
def segment (p : Printers) (turbofish : Bool) : Tree → Writer Unit
  | .form .segment [i] => name i
  | .form .segment [i, args] => do
    name i
    segmentArguments p turbofish args
  | _ => fail

/-- Segments, each behind `::` except the first. -/
def segments (p : Printers) (turbofish : Bool) : List Tree → Writer Unit :=
  joined (pure ()) (text "::") (segment p turbofish)

/-- A path. -/
def path (p : Printers) (turbofish : Bool) : Tree → Writer Unit
  | .form .path (.leaf (.punct _ _) :: ss) => do
    text "::"
    segments p turbofish ss
  | .form .path ss => segments p turbofish ss
  | _ => fail

/-- A path that may begin with a qualified type. -/
def qualifiedPath (p : Printers) (turbofish : Bool) : List Tree → Writer Unit
  | [.form .qualifiedSelf [type, ofTrait], rest] => do
    text "<"
    p.type type
    optional " as " (path p false) ofTrait
    text ">::"
    path p turbofish rest
  | [t] => path p turbofish t
  | _ => fail

/-! ## Parameters and bounds -/

/-- A generic parameter. -/
def genericParam (p : Printers) : Tree → Writer Unit
  | .node (.form f) children =>
    match f, children with
    | .lifetimeParam, [attributes, .lifetime i, bounds] => do
      outerAttributes p attributes
      lifetime i
      plainBounds p (text ": ") bounds
    | .typeParam, [attributes, i, bounds, fallback] => do
      outerAttributes p attributes
      name i
      flow step do
        breakableBounds p (text ": ") bounds
        fallback.parts.forM fun t => do
          space
          text "= "
          p.type t
    | .constParam, [attributes, i, type, fallback] => do
      outerAttributes p attributes
      text "const "
      name i
      text ": "
      p.type type
      optional " = " (p.expr false) fallback
    | _, _ => fail
  | _ => fail

/-- Parameters that are bound by `for<…>`. -/
def binder (p : Printers) : Tree → Writer Unit
  | .list [.form .binder params] => do
    text "for<"
    params |> joined (pure ()) (text ", ") (genericParam p)
    text "> "
  | _ => pure ()

/-- A bound of a type. -/
def bound (p : Printers) : Tree → Writer Unit
  | .lifetime i => lifetime i
  | .node (.form f) children =>
    match f, children with
    | .traitBound, [maybe, params, t] => do
      mark "?" maybe
      binder p params
      path p false t
    | .parenBound, [t] => do
      text "("
      p.bound t
      text ")"
    | .preciseCapture, params => do
      text "use<"
      params |> joined (pure ()) (text ", ") fun
        | .lifetime i => lifetime i
        | t => name t
      text ">"
    | _, _ => fail
  | _ => fail

/-- The generic parameters of an item. They stand in the group of the item, which is indented. -/
def generics (p : Printers) (params : Tree) : Writer Unit :=
  if params.isAbsent then pure ()
  else do
    text "<"
    block 0 do
      cut
      lifetimesFirst params.parts |> each fun last t => do
        genericParam p t
        comma last
      outdent
    text ">"

/-! ## Conditions -/

/-- A condition on a lifetime or type. -/
def predicate (p : Printers) : Tree → Writer Unit
  | .form .lifetimePredicate [.lifetime i, bounds] => do
    lifetime i
    text ":"
    flow step (breakableBounds p blank bounds)
  | .form .typePredicate [params, type, bounds] => do
    binder p params
    p.type type
    text ":"
    flow (if bounds.parts.length == 1 then 0 else step) (breakableBounds p blank bounds)
  | _ => fail

/-- Where conditions stand: before a body, or at the end of an item, which has a semicolon. -/
inductive ConditionsEnd where
  | body
  | semicolon
  deriving DecidableEq, Repr

/-- What stands instead of conditions where there are none. -/
def ConditionsEnd.without : ConditionsEnd → Writer Unit
  | body => blank
  | semicolon => text ";"

/-- The conditions of an item, whose parts are set apart by `gap` and end as `ended` says. -/
def conditionsWith (p : Printers) (gap : Writer Unit) (ended : (last : Bool) → Writer Unit)
    (e : ConditionsEnd) (conditions : Tree) : Writer Unit :=
  if conditions.isAbsent then e.without
  else do
    gap
    outdent
    text "where"
    gap
    conditions.parts |> each fun last t => do
      predicate p t
      if last && e = .semicolon then text ";" else ended last
    if e = .body then outdent

/-- The conditions of an item, each on a line of its own. -/
def conditions (p : Printers) (e : ConditionsEnd) (cs : Tree) : Writer Unit :=
  conditionsWith p newline (fun _ => do text ","; newline) e cs

/-- The conditions of an item, on one line with it if they fit. -/
def conditionsInLine (p : Printers) (e : ConditionsEnd) (cs : Tree) : Writer Unit :=
  conditionsWith p space commaOrSpace e cs

end DisplayGen.Source.Printer
