import DisplayGen.Source.Lexer

/-!
# Format strings

What `::core::write!` makes of its format string. Text stands for itself, a doubled brace for one brace, and a
place `{argument:spec}` for the value of an argument:

* argument: an index or a name; without one, the next argument in order;
* spec: fill and alignment, sign, `#`, `0`, width, precision and type, each of which may be missing. Width and
  precision are numbers, or arguments with `$` behind them; for the precision there is also `*`.

`read?` gives nothing where a brace stands alone, or a place is malformed. `fill?` puts values in places
that have neither argument nor spec.
-/

namespace DisplayGen.FormatString

open Text

/-- The argument that a place takes: the next one in order, or the one of an index or a name. -/
inductive Argument where
  | next
  | index (n : Nat)
  | named (name : String)
  deriving DecidableEq, Repr

/-- A width or a precision: a number, or the argument that holds it. -/
inductive Count where
  | number (n : Nat)
  | held (a : Argument)
  deriving DecidableEq, Repr

/-- How the value of an argument is written. -/
structure Spec where
  fill : Option Char
  align : Option Char
  sign : Option Char
  alternate : Bool
  zeros : Bool
  width : Option Count
  precision : Option Count
  type : String
  deriving DecidableEq, Repr

structure Place where
  argument : Argument
  spec : Spec
  deriving DecidableEq, Repr

/-- The spec that asks for nothing. -/
def Spec.plain : Spec := ⟨none, none, none, false, false, none, none, ""⟩

/-- The place `{}`. -/
def Place.plain : Place := ⟨.next, .plain⟩

inductive Piece where
  | char (c : Char)
  /-- A doubled brace. -/
  | escape (c : Char)
  | place (p : Place)
  deriving DecidableEq, Repr

/-- The piece is a character that stands for itself. -/
def Piece.isChar : Piece → Bool
  | .char _ => true
  | _ => false

/-- The places and the doubled braces. -/
def marks (ps : List Piece) : List Piece := ps.filter fun p => !p.isChar

/-! ## Places -/

/-- What a reader finds at the beginning of a text, or nothing and all of the text. -/
def optional {α : Type} (reader : List Char → Option (α × List Char)) (cs : List Char) :
    Option α × List Char :=
  match reader cs with
  | some (a, rest) => (some a, rest)
  | none => (none, cs)

def oneOf? (chars : List Char) : List Char → Option (Char × List Char)
  | c :: r => if c ∈ chars then some (c, r) else none
  | [] => none

def argument? (cs : List Char) : Option (Argument × List Char) :=
  match cs.takeWhile isAsciiDigit with
  | d :: ds => some (.index (Nat.ofDigitChars 10 (d :: ds) 0), cs.dropWhile isAsciiDigit)
  | [] =>
    match Source.Lexer.word? cs with
    | some (['_'], _) => none
    | some (w, rest) => some (.named (String.ofList w), rest)
    | none => none

def count? (cs : List Char) : Option (Count × List Char) :=
  match argument? cs with
  | some (a, '$' :: rest) => some (.held a, rest)
  | some (.index n, rest) => some (.number n, rest)
  | _ => none

def precision? : List Char → Option (Count × List Char)
  | '.' :: '*' :: r => some (.held .next, r)
  | '.' :: r => count? r
  | _ => none

def alignments : List Char := ['<', '^', '>']

/-- Any character fills, if an alignment follows it. -/
def fillAlign : List Char → (Option Char × Option Char) × List Char
  | c :: a :: r =>
    if a ∈ alignments then ((some c, some a), r)
    else if c ∈ alignments then ((none, some c), a :: r)
    else ((none, none), c :: a :: r)
  | cs => ((none, none), cs)

/-- A zero asks for leading zeros, unless it is the index of an argument that holds the width. -/
def leadingZeros : List Char → Bool × List Char
  | '0' :: '$' :: r => (false, '0' :: '$' :: r)
  | '0' :: r => (true, r)
  | cs => (false, cs)

def typeName : List Char → String × List Char
  | 'x' :: '?' :: r => ("x?", r)
  | 'X' :: '?' :: r => ("X?", r)
  | c :: r =>
    if c ∈ ['?', 'o', 'x', 'X', 'p', 'b', 'e', 'E'] then (String.singleton c, r) else ("", c :: r)
  | [] => ("", [])

def spec (cs : List Char) : Spec × List Char :=
  let ((fill, align), cs) := fillAlign cs
  let (sign, cs) := optional (oneOf? ['+', '-']) cs
  let (alternate, cs) := optional (oneOf? ['#']) cs
  let (zeros, cs) := leadingZeros cs
  let (width, cs) := optional count? cs
  let (precision, cs) := optional precision? cs
  let (type, cs) := typeName cs
  (⟨fill, align, sign, alternate.isSome, zeros, width, precision, type⟩, cs)

/-- A place, from behind its opening brace. Blanks may stand before the closing one. -/
def place? (cs : List Char) : Option (Place × List Char) :=
  let (argument, cs) := optional argument? cs
  let (spec, cs) :=
    match cs with
    | ':' :: r => spec r
    | _ => (.plain, cs)
  match cs.dropWhile isSpace with
  | '}' :: rest => some (⟨argument.getD .next, spec⟩, rest)
  | _ => none

/-! ## Format strings -/

/-- The pieces of a text in at most `fuel` steps. -/
def piecesFrom : (fuel : Nat) → List Char → Option (List Piece)
  | _, [] => some []
  | 0, _ :: _ => none
  | fuel + 1, '{' :: '{' :: r => (piecesFrom fuel r).map (.escape '{' :: ·)
  | fuel + 1, '}' :: '}' :: r => (piecesFrom fuel r).map (.escape '}' :: ·)
  | _ + 1, '}' :: _ => none
  | fuel + 1, '{' :: r =>
    match place? r with
    | some (p, rest) => (piecesFrom fuel rest).map (.place p :: ·)
    | none => none
  | fuel + 1, c :: r => (piecesFrom fuel r).map (.char c :: ·)

/-- The pieces of a format string. Each step takes at least one character. -/
def read? (format : String) : Option (List Piece) := piecesFrom format.toList.length format.toList

example : read? "a\x7b\x7b\x7b:*^#0w$.3x?\x7d" = some [.char 'a', .escape '{', .place ⟨.next,
    ⟨some '*', some '^', none, true, true, some (.held (.named "w")), some (.number 3), "x?"⟩⟩] := by
  decide +kernel

/-- The text that the pieces stand for, with the values in their order. There must be a place for each value,
and a value for each place. -/
def fill? : List Piece → List String → Option String
  | [], [] => some ""
  | .char c :: ps, vs => (fill? ps vs).map (String.singleton c ++ ·)
  | .escape c :: ps, vs => (fill? ps vs).map (String.singleton c ++ ·)
  | .place p :: ps, v :: vs => if p = .plain then (fill? ps vs).map (v ++ ·) else none
  | .place _ :: _, [] => none
  | [], _ :: _ => none

/-! ## Reading -/

/-- The pieces of the text are these, whatever the fuel. -/
def Reads (cs : List Char) (ps : List Piece) : Prop :=
  ∀ fuel, cs.length ≤ fuel → piecesFrom fuel cs = some ps

theorem read?_of_reads {format : String} {ps : List Piece} (h : Reads format.toList ps) :
    read? format = some ps := h _ (Nat.le_refl _)

namespace Reads

variable {cs : List Char} {ps : List Piece}

theorem nil : Reads [] [] := by
  intro fuel _
  cases fuel with
  | zero => rfl
  | succ fuel => rfl

theorem char {c : Char} (hopening : c ≠ '{') (hclosing : c ≠ '}') (h : Reads cs ps) :
    Reads (c :: cs) (.char c :: ps) := by
  intro fuel hfuel
  rw [List.length_cons] at hfuel
  obtain ⟨fuel, rfl⟩ := Nat.exists_eq_succ_of_ne_zero (show fuel ≠ 0 by omega)
  rw [piecesFrom, h fuel (by omega)]
  · rfl
  all_goals grind

theorem text {w : List Char} (hopening : '{' ∉ w) (hclosing : '}' ∉ w) (h : Reads cs ps) :
    Reads (w ++ cs) (w.map .char ++ ps) := by
  induction w with
  | nil => exact h
  | cons c w ih =>
    rw [List.mem_cons, not_or] at hopening hclosing
    exact (ih hopening.2 hclosing.2).char (Ne.symm hopening.1) (Ne.symm hclosing.1)

theorem place_plain (h : Reads cs ps) : Reads ('{' :: '}' :: cs) (.place .plain :: ps) := by
  intro fuel hfuel
  rw [List.length_cons, List.length_cons] at hfuel
  obtain ⟨fuel, rfl⟩ := Nat.exists_eq_succ_of_ne_zero (show fuel ≠ 0 by omega)
  have hplace : place? ('}' :: cs) = some (.plain, cs) := rfl
  rw [piecesFrom, hplace]
  · dsimp only
    rw [h fuel (by omega)]
    rfl
  all_goals grind

end Reads

/-! ## Filling -/

theorem fill?_text (w : List Char) (ps : List Piece) (vs : List String) :
    fill? (w.map .char ++ ps) vs = (fill? ps vs).map (String.ofList w ++ ·) := by
  induction w with
  | nil => simp
  | cons c w ih =>
    have htext : ∀ s, String.ofList (c :: w) ++ s = String.singleton c ++ (String.ofList w ++ s) :=
      fun s => String.toList_injective (by simp)
    rw [List.map_cons, List.cons_append, fill?, ih, Option.map_map]
    congr 1
    exact funext fun s => (htext s).symm

theorem fill?_place_plain (ps : List Piece) (v : String) (vs : List String) :
    fill? (.place .plain :: ps) (v :: vs) = (fill? ps vs).map (v ++ ·) := if_pos rfl

theorem marks_text (w : List Char) (ps : List Piece) : marks (w.map .char ++ ps) = marks ps := by
  have hnone : (w.map Piece.char).filter (fun p => !p.isChar) = [] := by
    simp [List.filter_eq_nil_iff, Piece.isChar]
  unfold marks
  rw [List.filter_append, hnone, List.nil_append]

end DisplayGen.FormatString
