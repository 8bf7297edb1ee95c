import DisplayGen.Resolution.Declaration
import DisplayGen.Resolution.Symbol

/-!
# Name resolution

A `Scope` holds what the modules of a crate declare and import. `Scope.resolve` follows a path
written in one of them to the symbol that it names. A path may begin with `crate`, `self` or
`super`, with what its module declares or imports, or with the name of another crate; imports on the
way are followed. They may form a cycle, so their depth is limited (`resolutionLimit`).
-/

namespace DisplayGen

open Source

/-- What the modules of a crate declare and import. Paths are relative to the crate. -/
structure Scope where
  crateName : String
  /-- Everything that can be named, modules included. -/
  items : List (List String)
  /-- The structs, in source order. -/
  structs : List (List String × StructHead)
  /-- The imports, each with its module, in source order. -/
  imports : List (List String × Import)
  deriving DecidableEq, Repr, Inhabited

/-- How many imports deep resolution goes. -/
def resolutionLimit : Nat := 16

namespace Scope

/-- The symbol of a path of this crate. -/
def localSymbol (s : Scope) (path : List String) : Symbol := ⟨s.crateName, path⟩

/-- The structs declared at a path. -/
def structsAt (s : Scope) (path : List String) : List StructHead :=
  (s.structs.filter fun d => d.1 = path).map (·.2)

/-- The imports of a module. -/
def importsOf (s : Scope) (module : List String) : List Import :=
  (s.imports.filter fun d => d.1 = module).map (·.2)

/-- The path that the first import under a name stands for. -/
def importNamed (name : String) (imports : List Import) : Option WrittenPath :=
  imports.findSome? fun
    | .named bound target => if bound = name then some target else none
    | .glob _ => none

/-- The bases of the globs among imports. -/
def globBases (imports : List Import) : List WrittenPath :=
  imports.filterMap fun
    | .named _ _ => none
    | .glob base => some base

/-- Follows segments down from a symbol, one module at a time. A segment that nothing binds is kept
as written, with all that follow it, and so are the segments of another crate. -/
def walk (s : Scope) (look : List String → String → Option Symbol) (start : Symbol) :
    List String → Symbol
  | [] => start
  | n :: rest =>
    if start.crate = s.crateName then
      match look start.path n with
      | some next => walk s look next rest
      | none => start.join (n :: rest)
    else start.join (n :: rest)

/-- Goes up one module for each `super` at the beginning; there is nothing above the crate. -/
def ascend (module : List String) : List String → Option (List String × List String)
  | "super" :: rest => if module.isEmpty then none else ascend module.dropLast rest
  | rest => some (module, rest)

mutual

/-- What a path written in a module names, followed through at most `fuel` levels. -/
def resolveWithin (s : Scope) : (fuel : Nat) → List String → WrittenPath → Option Symbol
  | 0, _, _ => none
  | _ + 1, _, ⟨_, []⟩ => none
  | _ + 1, _, ⟨true, first :: rest⟩ => some ⟨first, rest⟩
  | fuel + 1, module, ⟨false, first :: rest⟩ =>
    let walk := s.walk (s.lookupWithin fuel)
    if first = "crate" then some (walk (s.localSymbol []) rest)
    else if first = "self" then
      if rest.head? = some "super" then s.resolveWithin fuel module ⟨false, rest⟩
      else some (walk (s.localSymbol module) rest)
    else if first = "super" then
      match ascend module (first :: rest) with
      | some (base, rest) => some (walk (s.localSymbol base) rest)
      | none => none
    else
      match importNamed first (s.importsOf module) with
      | some target =>
        match s.resolveWithin fuel module target with
        | some found => some (walk found rest)
        | none => none
      | none =>
        match s.lookupWithin fuel module first with
        | some found => some (walk found rest)
        | none => if rest.isEmpty then none else some ⟨first, rest⟩

/-- What a name refers to in a module, followed through at most `fuel` levels: an item, else an
import, else what the first glob provides. -/
def lookupWithin (s : Scope) : (fuel : Nat) → List String → String → Option Symbol
  | 0, _, _ => none
  | fuel + 1, module, name =>
    if s.items.contains (module ++ [name]) then some (s.localSymbol (module ++ [name]))
    else
      match importNamed name (s.importsOf module) with
      | some target => s.resolveWithin fuel module target
      | none =>
        (globBases (s.importsOf module)).findSome? fun base =>
          match s.resolveWithin fuel module base with
          | some found =>
            if found.crate = s.crateName then s.lookupWithin fuel found.path name else none
          | none => none

end

/-- What a path written in a module names. -/
def resolve (s : Scope) (module : List String) (path : WrittenPath) : Option Symbol :=
  s.resolveWithin (resolutionLimit + 1) module path

end Scope

end DisplayGen
