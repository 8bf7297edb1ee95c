import DisplayGen.Candidate
import DisplayGen.ModulePath
import DisplayGen.Summary

/-!
# Extraction

Extraction decides which candidates carry the marker, and makes their summaries. A candidate is
marked if one of its attributes resolves to the marker's symbol in the module where it stands.
-/

namespace DisplayGen

open Source

/-- The struct with the given qualified name: `crate` or the name of the crate, then its path. -/
def Scope.structNamed? (s : Scope) (qualified : String) : Option Symbol :=
  match Text.splitPath qualified with
  | [] => none
  | root :: path =>
    if root = "crate" || root = s.crateName then
      if (s.structsAt path).isEmpty then none else some (s.localSymbol path)
    else none

/-- A named field of a struct. -/
structure Member where
  /-- The name as written. -/
  name : String
  visibility : Visibility
  deriving DecidableEq, Repr, Inhabited

/-- A struct that can be named, with the module that declares it. -/
structure TypeSymbol where
  id : Symbol
  module : List String
  head : StructHead
  deriving DecidableEq, Repr, Inhabited

namespace TypeSymbol

/-- The name of the struct, not raw. -/
def name (t : TypeSymbol) : String := t.head.name.name

/-- The module of the struct with the name of its crate in front. -/
def containingNamespace (t : TypeSymbol) : String := qualifiedModule t.id.crate t.module

/-- What the attributes of the struct resolve to, in source order. -/
def attributeClasses (t : TypeSymbol) (s : Scope) : List Symbol :=
  t.head.attributes.filterMap fun a => s.resolve t.module a.path.toWritten

/-- The named fields of the struct. -/
def members (t : TypeSymbol) : List Member :=
  match t.head.fields with
  | .named fields => fields.map fun f => ⟨f.name.written, f.visibility⟩
  | .positional | .unit => []

/-- The summary of the struct. -/
def summary (t : TypeSymbol) : Summary where
  namespaceName := t.containingNamespace
  typeName := t.name
  memberNames := (t.members.filter fun m => m.visibility == .everyone).map (·.name)

end TypeSymbol

/-- What a candidate declares, if its own declaration is one that can be named. -/
def Candidate.symbol? (c : Candidate) (s : Scope) : Option TypeSymbol :=
  let path := c.module ++ [c.head.name.name]
  if !c.inBlock && (s.structsAt path).contains c.head then
    some ⟨s.localSymbol path, c.module, c.head⟩
  else none

/-- The summary of a candidate that carries the marker with the given qualified name. -/
def Candidate.summary? (c : Candidate) (s : Scope) (marker : String) : Option Summary :=
  match c.symbol? s, s.structNamed? marker with
  | some t, some m => if (t.attributeClasses s).contains m then some t.summary else none
  | _, _ => none

/-- The summaries of a crate's marked structs, in source order. -/
def Crate.summaries (c : Crate) (marker : String) : List Summary :=
  let s := c.scope
  c.candidates.filterMap fun d => d.summary? s marker

end DisplayGen
