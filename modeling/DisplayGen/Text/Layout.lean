/-!
# Layout

A sequence of pieces is laid out in lines: on each line as many pieces as fit (`fill`). What fits on
one line as a whole is not broken. Widths are counted in bytes.
-/

namespace DisplayGen.Text

/-- How wide a line may be, in bytes. -/
def lineLimit : Nat := 89

/-- The width of a text in bytes. -/
def width (s : String) : Nat := s.utf8ByteSize

/-- The text fits on one line. -/
def fits (s : String) : Bool := width s ≤ lineLimit

/-- A blank margin. -/
def margin (n : Nat) : String := String.ofList (List.replicate n ' ')

/-- A piece of a line that is not broken; `spaced` if a blank sets it off from the piece before it.
-/
structure Piece where
  spaced : Bool
  text : String
  deriving DecidableEq, Repr, Inhabited

/-- A piece as it continues a line. -/
def Piece.continued (p : Piece) : String := if p.spaced then " " ++ p.text else p.text

/-- The lines that pieces make after the line that has been begun. -/
def fillFrom (indent : Nat) (line : String) : List Piece → List String
  | [] => [line]
  | p :: ps =>
    let longer := line ++ p.continued
    if fits longer then fillFrom indent longer ps
    else line :: fillFrom indent (margin indent ++ p.text) ps

/-- The lines that pieces make behind a margin. -/
def fill (indent : Nat) : List Piece → List String
  | [] => []
  | p :: ps => fillFrom indent (margin indent ++ p.text) ps

/-- The pieces on one line. -/
def inLine : List Piece → String
  | [] => ""
  | p :: ps => ps.foldl (fun line q => line ++ q.continued) p.text

/-- Two parts behind a margin, on one line if they fit. -/
def inOneOrTwo (indent : Nat) (first second : String) : List String :=
  let line := margin indent ++ first ++ " " ++ second
  if fits line then [line] else [margin indent ++ first, margin indent ++ second]

/-- Pieces between an opening and a closing, on one line if they fit. -/
def bracketed (indent : Nat) (opening closing : String) (pieces : List Piece) : List String :=
  let line := margin indent ++ opening ++ inLine pieces ++ closing
  if fits line then [line]
  else [margin indent ++ opening] ++ fill (indent + 4) pieces ++ [margin indent ++ closing]

/-- The lines of a text, each with a line break at its end. -/
def unlines (lines : List String) : String := String.join (lines.map (· ++ "\n"))

end DisplayGen.Text
