import DisplayGen.Text.Unicode.GraphemeExtend
import DisplayGen.Text.Unicode.Unprintable

/-!
# Escaped text

A character without a glyph of its own is written as an escape: one letter after a backslash, or its
code point in hexadecimal digits between braces. `escapeChar` escapes the single quote too,
`escapeLiteral` writes the body of a string literal, where only the double quote needs it.
-/

namespace DisplayGen.Text

/-- A hexadecimal digit, in lower case. -/
def hexDigit (n : Nat) : Char :=
  if n < 10 then Char.ofNat (48 + n) else Char.ofNat (87 + n)

/-- Hexadecimal digits of a number without leading zeros, at most `fuel` of them. -/
def hexDigitsFrom : (fuel : Nat) → Nat → List Char → List Char
  | 0, _, acc => acc
  | fuel + 1, n, acc =>
    let acc' := hexDigit (n % 16) :: acc
    if n < 16 then acc' else hexDigitsFrom fuel (n / 16) acc'

/-- Hexadecimal digits of a code point without leading zeros. -/
def hexDigits (n : Nat) : List Char := hexDigitsFrom 8 n []

/-- The escape of a character by its code point. -/
def codeEscape (c : Char) : List Char := '\\' :: 'u' :: '{' :: hexDigits c.toNat ++ ['}']

/-- The character is written by its code point: it has no glyph, or joins the one before it. -/
def needsCode (c : Char) : Bool :=
  if c.toNat < 128 then c.toNat < 32 || c.toNat == 127
  else covers Unicode.graphemeExtendRanges c || covers Unicode.unprintableRanges c

/-- A character as it is written between quotes of either kind. -/
def escapeChar (c : Char) : List Char :=
  if c.toNat = 0 then ['\\', '0']
  else if c = '\t' then ['\\', 't']
  else if c = '\r' then ['\\', 'r']
  else if c = '\n' then ['\\', 'n']
  else if c = '\\' then ['\\', '\\']
  else if c = '\"' then ['\\', '\"']
  else if c = '\'' then ['\\', '\'']
  else if needsCode c then codeEscape c
  else [c]

/-- A text as the body of a quoted value. -/
def escapeAll (cs : List Char) : List Char := cs.flatMap escapeChar

/-- A text as the body of a string literal: single quotes stand as they are, and a null before an
octal digit is written in two digits. -/
def escapeLiteral : List Char → List Char
  | [] => []
  | c :: r =>
    let head :=
      if c.toNat = 0 then
        match r with
        | d :: _ => if '0' ≤ d && d ≤ '7' then ['\\', 'x', '0', '0'] else ['\\', '0']
        | [] => ['\\', '0']
      else if c = '\'' then [c]
      else escapeChar c
    head ++ escapeLiteral r

/-- A text as a string literal. -/
def quoteLiteral (cs : List Char) : List Char := '\"' :: escapeLiteral cs ++ ['\"']

end DisplayGen.Text
