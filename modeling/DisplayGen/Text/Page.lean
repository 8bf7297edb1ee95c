import DisplayGen.Text.Document

/-!
# Pages

A document is laid out on a page of lines. A group whose text up to the next break behind it does
not fit on the rest of the line is broken: then all of its breaks are taken, or those whose text up
to the next break does not fit. Widths are counted in bytes.
-/

namespace DisplayGen.Text

/-- How much room a line has at least, however far it is indented. -/
def leastRoom : Int := 60

/-- A page that is being filled: its text, the room that is left on the line, and the blanks that
are due before the next text. -/
structure Page where
  text : String
  room : Int
  pending : Nat
  deriving Inhabited

namespace Page

/-- The page at its beginning. -/
def empty : Page := ⟨"", lineLimit, 0⟩

/-- The page with text behind it, for which no room is taken. -/
def append (p : Page) (s : String) : Page := ⟨p.text ++ margin p.pending ++ s, p.room, 0⟩

/-- The page with text behind it. -/
def write (p : Page) (s : String) : Page := { p.append s with room := p.room - width s }

/-- The page at a place at which the line does not break. -/
def stay (p : Page) (b : Break) : Page :=
  ⟨p.text ++ b.unbroken, p.room - b.blanks - width b.unbroken, p.pending + b.blanks⟩

/-- The page at a place at which the line breaks, in a group with the given indentation. -/
def turn (p : Page) (indent : Int) (b : Break) : Page :=
  let ended := if b.lineEnd.isEmpty then p else p.append b.lineEnd
  let indent := indent + b.offset
  let next : Page := ⟨ended.text ++ "\n", max (lineLimit - indent) leastRoom, indent.toNat⟩
  if b.lineStart.isEmpty then next else next.write b.lineStart

end Page

/-- What has been found out about a group: it fits on the line, or it does not and breaks in its
way. -/
inductive Frame where
  | fits
  | broken (breaking : Breaking)
  deriving DecidableEq, Repr, Inhabited

/-- The line breaks at a place from which on the text up to the next place has the given width. -/
def Frame.breaks (f : Frame) (room : Int) (extent : Nat) : Bool :=
  match f with
  | .fits => false
  | .broken .consistent => true
  | .broken .inconsistent => room < extent

/-- The width up to the next break: that of these parts, or the one behind them at the distance
`rest`. -/
def reach (rest : Nat) : List Doc → Nat
  | [] => rest
  | .break _ :: _ => 0
  | d :: ds => d.width + reach rest ds

mutual

/-- Lays out a part, behind which the next break is at the distance `rest`. -/
def Doc.layOut (frame : Frame) (indent : Int) (rest : Nat) (page : Page) : Doc → Page
  | .text s => page.write s
  | .overflow => page.write ""
  | .break b =>
    if !b.never && frame.breaks page.room (b.blanks + rest) then page.turn indent b else page.stay b
  | .group offset breaking content =>
    if page.room < (widthOfAll content + rest : Nat) then
      layOutAll (.broken breaking) (indent + offset) rest page content
    else layOutAll .fits indent rest page content

/-- Lays out several parts. -/
def layOutAll (frame : Frame) (indent : Int) (rest : Nat) (page : Page) : List Doc → Page
  | [] => page
  | d :: ds => layOutAll frame indent rest (d.layOut frame indent (reach rest ds) page) ds

end

/-- The text of the document that a writer writes. -/
def Writer.toText? (w : Writer Unit) : Option String :=
  match w ⟨[], ""⟩ with
  | some ((), d) => some (layOutAll (.broken .inconsistent) 0 0 Page.empty d.parts.reverse).text
  | none => none

end DisplayGen.Text
