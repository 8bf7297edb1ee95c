import DisplayGen.Text.Layout

/-!
# Documents

A document is text with places at which its lines may break. Groups of a document nest: on a line
that a group fits on, none of its breaks is taken. `Writer` writes a document piece by piece; it may
fail, and then there is no document.
-/

namespace DisplayGen.Text

/-- Which breaks of a group are taken that does not fit on the line: all of them, or as few as
possible. -/
inductive Breaking where
  | consistent
  | inconsistent
  deriving DecidableEq, Repr, Inhabited

/-- A place at which a line may break. -/
structure Break where
  /-- How much further than the group the next line is indented. -/
  offset : Int := 0
  /-- The blanks that stand here if the line does not break. -/
  blanks : Nat := 0
  /-- What else stands here if the line does not break. -/
  unbroken : String := ""
  /-- What the line ends with if it breaks. -/
  lineEnd : String := ""
  /-- What the next line begins with if the line breaks. -/
  lineStart : String := ""
  /-- At the end of a group the place is left out. -/
  optional : Bool := false
  /-- The line never breaks here. -/
  never : Bool := false
  deriving DecidableEq, Repr, Inhabited

/-- A part of a document. -/
inductive Doc where
  | text (s : String)
  /-- No text, and yet too wide for any line. -/
  | overflow
  | break (b : Break)
  | group (offset : Int) (breaking : Breaking) (content : List Doc)
  deriving Inhabited

/-- A width that no line has. -/
def endless : Nat := 65535

mutual

/-- The width of a part of a document on one line. -/
def Doc.width : Doc → Nat
  | .text s => Text.width s
  | .overflow => endless
  | .break b => b.blanks
  | .group _ _ content => widthOfAll content

/-- The width of several parts on one line. -/
def widthOfAll : List Doc → Nat
  | [] => 0
  | d :: ds => d.width + widthOfAll ds

end

/-- A group that is being written: its parts, the latest first, and the latest text of the document.
-/
structure Draft where
  parts : List Doc
  latest : String
  deriving Inhabited

/-- What writes a part of a document. -/
abbrev Writer := StateT Draft Option

namespace Writer

/-- The writer that fails. -/
def fail : Writer Unit := fun _ => none

/-- Writes a part. -/
def put (d : Doc) : Writer Unit := fun s => some ((), { s with parts := d :: s.parts })

/-- Writes text that is not broken. -/
def text (t : String) : Writer Unit := fun s => some ((), ⟨.text t :: s.parts, t⟩)

/-- The latest text ends with the character. -/
def endsWith (c : Char) : Writer Bool := fun s => some (s.latest.toList.getLast? == some c, s)

/-! ## Breaks -/

/-- A place at which the line may break. -/
def cut : Writer Unit := put (.break {})

/-- A blank at which the line may break. -/
def space : Writer Unit := put (.break { blanks := 1 })

/-- A blank at which the line does not break. -/
def blank : Writer Unit := text " "

/-- A place at which the line breaks. -/
def newline : Writer Unit := put (.break { blanks := endless })

/-- A blank at which the line may break, unless the group ends here. -/
def spaceUnlessEnd : Writer Unit := put (.break { blanks := 1, optional := true })

/-- A place at which the line breaks, unless the group ends here. -/
def newlineUnlessEnd : Writer Unit := put (.break { blanks := endless, optional := true })

/-- A place at which the line does not break: what stands before it is measured up to here. -/
def fence : Writer Unit := put (.break { never := true })

/-- What stands behind an element of a list: a comma, which the last element has only at the end of
a line. -/
def comma (last : Bool) : Writer Unit :=
  if last then put (.break { lineEnd := "," })
  else do
    text ","
    space

/-- What stands behind an element of a list whose brackets are set apart by blanks. -/
def commaOrSpace (last : Bool) : Writer Unit :=
  if last then put (.break { blanks := 1, lineEnd := "," })
  else do
    text ","
    space

/-- How far a group is indented. -/
def step : Int := 4

/-- Indents the next line less by a step, if it begins at the place just written. The place is the
latest part of the group, if it has one. -/
def outdent : Writer Unit := fun s =>
  match s.parts with
  | [] => some ((), s)
  | .break b :: ds => some ((), { s with parts := .break { b with offset := b.offset - step } :: ds })
  | _ => none

/-! ## Groups -/

/-- The parts with a group behind them, whose own parts have the latest first. A group of nothing
but a break is left out. -/
def closed (before : List Doc) (offset : Int) (breaking : Breaking) : List Doc → List Doc
  | [.break _] => before
  | .break b :: ds =>
    .group offset breaking (if b.optional then ds else .break b :: ds).reverse :: before
  | ds => .group offset breaking ds.reverse :: before

/-- Writes a group. -/
def group (offset : Int) (breaking : Breaking) (content : Writer Unit) : Writer Unit := fun s =>
  match content ⟨[], s.latest⟩ with
  | some ((), t) => some ((), ⟨closed s.parts offset breaking t.parts, t.latest⟩)
  | none => none

/-- Writes a group that breaks everywhere if it does not fit on the line. -/
def block (offset : Int) (content : Writer Unit) : Writer Unit := group offset .consistent content

/-- Writes a group that breaks where it must if it does not fit on the line. -/
def flow (offset : Int) (content : Writer Unit) : Writer Unit := group offset .inconsistent content

/-- Ends a group that does not fit on any line if it is wider than `limit`. -/
def atMost (limit : Nat) : Writer Unit := fun s =>
  if limit < widthOfAll s.parts then some ((), ⟨.overflow :: s.parts, ""⟩) else some ((), s)

/-! ## Lists -/

/-- Writes each element, told whether it is the last one. -/
def each {α : Type} (write : (last : Bool) → α → Writer Unit) : List α → Writer Unit
  | [] => pure ()
  | [a] => write true a
  | a :: b :: as => do
    write false a
    each write (b :: as)

/-- Writes each element behind what stands before the first one and before the others. -/
def joined {α : Type} (first next : Writer Unit) (write : α → Writer Unit) : List α → Writer Unit
  | [] => pure ()
  | a :: as => do
    first
    write a
    as.forM fun b => do
      next
      write b

end Writer

end DisplayGen.Text
