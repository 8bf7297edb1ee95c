import DisplayGen.Source.Lexer.Quoted
import DisplayGen.Source.Token

/-!
# What string literals denote

The text of a string literal is read once more, now for what it stands for: each step of the
automaton that ends a character or an escape gives that character.
-/

namespace DisplayGen.Source

open Lexer

namespace Quoted

/-- The character that an escape of one letter stands for. -/
def shortEscape (c : Char) : Char :=
  if c = 'n' then '\n'
  else if c = 'r' then '\r'
  else if c = 't' then '\t'
  else if c = '0' then Char.ofNat 0
  else c

/-- What a character gives that leads back into the plain text of the body. -/
def given (m : Quoted.Mode) (c : Char) : List Char :=
  match m with
  | .plain | .lineBreak => [c]
  | .afterReturn => ['\n']
  | .escape => [shortEscape c]
  | .hexLow high => [Char.ofNat (high * 16 + (Text.hexValue? c).getD 0)]
  | .code _ value => [Char.ofNat value]
  | .hexHigh | .codeOpen | .lineBreakReturn => []

/-- What a body stands for that is read from the given mode on. -/
def value? (f : Flavour) : Quoted.Mode → List Char → Option (List Char)
  | _, [] => none
  | m, c :: r =>
    match Quoted.step f m c with
    | .goto .plain => (value? f .plain r).map (given m c ++ ·)
    | .goto m' => value? f m' r
    | .close => some []
    | .reject => none

end Quoted

/-- What a raw body with the given number of number signs stands for. -/
def rawValue? (signs : Nat) : List Char → Option (List Char)
  | [] => none
  | '\"' :: r =>
    if (Text.afterStart? (List.replicate signs '#') r).isSome then some []
    else (rawValue? signs r).map ('\"' :: ·)
  | '\r' :: '\n' :: r => (rawValue? signs r).map ('\n' :: ·)
  | c :: r => (rawValue? signs r).map (c :: ·)

/-- What a string literal stands for. -/
def Literal.value? (l : Literal) : Option (List Char) :=
  if l.kind = .string then
    match l.text with
    | '\"' :: r => Quoted.value? .text .plain r
    | 'r' :: r =>
      match rawOpening? r with
      | some (signs, body) => rawValue? signs body
      | none => none
    | _ => none
  else none

end DisplayGen.Source
