import DisplayGen.Resolution.Import

/-!
# Declarations

What the items of a module declare, with the items of its inline modules. Items in blocks cannot be
named from outside and declare nothing here.
-/

namespace DisplayGen

open Source

/-- Something that an item declares, with the crate-relative path at which it does. -/
inductive Declaration where
  /-- Something that can be named. -/
  | item (path : List String)
  /-- A struct. -/
  | struct (path : List String) (head : StructHead)
  /-- An import into the module at the path. -/
  | brought (module : List String) (content : Import)
  deriving DecidableEq, Repr, Inhabited

namespace Source.Tree

mutual

/-- What an item of the module at the path `module` declares. -/
def declarations (module : List String) : Tree → List Declaration
  | .node (.struct head) _ => [.struct (module ++ [head.name.name]) head]
  | .node (.named _ i) _ => [.item (module ++ [i.name])]
  | .node (.macroItem (some i)) _ => [.item (module ++ [i.name])]
  | .node (.module i _) [_, _, _, .node _ items] =>
    .item (module ++ [i.name]) :: declarationsOfAll (module ++ [i.name]) items
  | .node (.use leadingColon t) _ =>
    (t.imports leadingColon []).map (Declaration.brought module)
  | _ => []

/-- What the items of the module at the path `module` declare. -/
def declarationsOfAll (module : List String) : List Tree → List Declaration
  | [] => []
  | t :: ts => declarations module t ++ declarationsOfAll module ts

end

end Source.Tree

end DisplayGen
