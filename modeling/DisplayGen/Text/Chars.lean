import DisplayGen.Text.Unicode.XidStart
import DisplayGen.Text.Unicode.XidContinue

/-!
# Character classes

The classes that the readers of this library share: blanks, digits, and the characters of an
identifier. Below `U+0080` they are spelled out; above, identifiers follow the Unicode tables.
-/

namespace DisplayGen.Text

/-- Unicode white space. -/
def isSpace (c : Char) : Bool :=
  let n := c.toNat
  (9 ≤ n && n ≤ 13) || n == 0x20 || n == 0x85 || n == 0xA0 || n == 0x1680 ||
    (0x2000 ≤ n && n ≤ 0x200A) || n == 0x2028 || n == 0x2029 || n == 0x202F || n == 0x205F ||
    n == 0x3000

/-- White space between tokens of source text: Unicode white space and the two direction marks. -/
def isTokenSpace (c : Char) : Bool :=
  isSpace c || c.toNat == 0x200E || c.toNat == 0x200F

/-- An ASCII letter. -/
def isAsciiLetter (c : Char) : Bool :=
  ('a' ≤ c && c ≤ 'z') || ('A' ≤ c && c ≤ 'Z')

/-- An ASCII digit. -/
def isAsciiDigit (c : Char) : Bool := '0' ≤ c && c ≤ '9'

/-- The value of a hexadecimal digit. -/
def hexValue? (c : Char) : Option Nat :=
  if '0' ≤ c && c ≤ '9' then some (c.toNat - 48)
  else if 'a' ≤ c && c ≤ 'f' then some (c.toNat - 87)
  else if 'A' ≤ c && c ≤ 'F' then some (c.toNat - 55)
  else none

/-- A character that may start an identifier. -/
def isIdentStart (c : Char) : Bool :=
  if c.toNat < 128 then c == '_' || isAsciiLetter c
  else covers Unicode.xidStartRanges c

/-- A character that may continue an identifier. -/
def isIdentContinue (c : Char) : Bool :=
  if c.toNat < 128 then c == '_' || isAsciiLetter c || isAsciiDigit c
  else covers Unicode.xidContinueRanges c

/-- The characters are those of a word: one that may start an identifier, and others that may continue
it. -/
def isWord : List Char → Bool
  | [] => false
  | c :: r => isIdentStart c && r.all isIdentContinue

/-- The character with the given code point, if there is one. -/
def charOfCode? (n : Nat) : Option Char :=
  if h : n.isValidChar then some (Char.ofNatAux n h) else none

end DisplayGen.Text
