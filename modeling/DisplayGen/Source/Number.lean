import DisplayGen.Source.Token
import DisplayGen.Text.Chars
import DisplayGen.Text.Split

/-!
# Whole numbers and positions

A number literal is whole if it has neither a point nor an exponent. A whole number without suffix
can name a field by its position; so can each part of a number with points, as in `pair.0.1`.
-/

namespace DisplayGen.Source

open DisplayGen.Text

/-- The text after the letter of an exponent makes it one: a sign, or a digit that nothing but a
suffix follows. -/
def isExponent (digits : Bool) : List Char → Bool
  | [] => digits
  | c :: r =>
    if c = '_' then isExponent digits r
    else if c = '+' || c = '-' then true
    else if isAsciiDigit c then isExponent true r
    else digits && isIdentStart c && r.all isIdentContinue

/-- A whole number in the given base, after digits of the given value, and its suffix. -/
def wholeFrom (base value : Nat) (digits : Bool) : List Char → Option (Nat × List Char)
  | [] => if digits then some (value, []) else none
  | c :: r =>
    if c = '_' then wholeFrom base value digits r
    else if base = 10 && c = '.' then none
    else if base = 10 && (c = 'e' || c = 'E') then
      if isExponent false r || !digits then none else some (value, c :: r)
    else
      match if isAsciiDigit c || 10 < base then hexValue? c else none with
      | some v => if v < base then wholeFrom base (value * base + v) true r else none
      | none =>
        if digits && isIdentStart c && r.all isIdentContinue then some (value, c :: r) else none

/-- The value and the suffix of a whole number. -/
def wholeNumber? : List Char → Option (Nat × List Char)
  | '0' :: 'x' :: r => wholeFrom 16 0 false r
  | '0' :: 'o' :: r => wholeFrom 8 0 false r
  | '0' :: 'b' :: r => wholeFrom 2 0 false r
  | c :: r => if isAsciiDigit c then wholeFrom 10 0 false (c :: r) else none
  | [] => none

namespace Literal

/-- The literal is a whole number. -/
def isWhole (l : Literal) : Bool := l.kind == .number && (wholeNumber? l.text).isSome

/-- The literal is a number with a point or an exponent. -/
def isReal (l : Literal) : Bool := l.kind == .number && (wholeNumber? l.text).isNone

end Literal

/-- The field position that a text names. -/
def position? (cs : List Char) : Option Nat :=
  match wholeNumber? cs with
  | some (n, []) => if n < UInt32.size then some n else none
  | _ => none

/-- The positions that a number with points names, and whether it ends in a point. -/
def positions? (cs : List Char) : Option (List Nat × Bool) :=
  match (splitAtChar '.' cs).reverse with
  | [] :: before => (before.reverse.mapM position?).map fun ps => (ps, true)
  | parts => (parts.reverse.mapM position?).map fun ps => (ps, false)

end DisplayGen.Source
