import DisplayGen.Text.Chars

/-!
# UTF-8

Bytes are read as text either strictly (`decode?`) or with the replacement character in the place of
every part that is no text (`decodeLossy`).
-/

namespace DisplayGen.Text

/-- The bytes of a text. -/
def encode (s : String) : List Nat := s.toUTF8.toList.map UInt8.toNat

/-- What the first byte of a character says: how many bytes follow, the bits that it gives, and the
bounds of the second byte. -/
structure LeadByte where
  following : Nat
  bits : Nat
  low : Nat
  high : Nat
  deriving DecidableEq, Repr

/-- Reads a byte as the first of a character. -/
def leadByte? (b : Nat) : Option LeadByte :=
  if b < 0x80 then some ⟨0, b, 0x80, 0xBF⟩
  else if b < 0xC2 then none
  else if b < 0xE0 then some ⟨1, b - 0xC0, 0x80, 0xBF⟩
  else if b = 0xE0 then some ⟨2, 0, 0xA0, 0xBF⟩
  else if b = 0xED then some ⟨2, 0xD, 0x80, 0x9F⟩
  else if b < 0xF0 then some ⟨2, b - 0xE0, 0x80, 0xBF⟩
  else if b = 0xF0 then some ⟨3, 0, 0x90, 0xBF⟩
  else if b < 0xF4 then some ⟨3, b - 0xF0, 0x80, 0xBF⟩
  else if b = 0xF4 then some ⟨3, 4, 0x80, 0x8F⟩
  else none

/-- Takes the bytes that follow in a character, each between the bounds; the later ones between
`0x80` and `0xBF`. Gives the code point, or nothing if one is missing, and how many bytes were
taken. -/
def followingBytes (code low high taken : Nat) : (count : Nat) → List Nat → Option Nat × Nat
  | 0, _ => (some code, taken)
  | _ + 1, [] => (none, taken)
  | count + 1, b :: bs =>
    if low ≤ b && b ≤ high then
      followingBytes (code * 64 + (b - 0x80)) 0x80 0xBF (taken + 1) count bs
    else (none, taken)

/-- The first character of a text in bytes, if it is one, and how many bytes stand for it. -/
def firstChar (b : Nat) (bs : List Nat) : Option Char × Nat :=
  match leadByte? b with
  | none => (none, 1)
  | some l =>
    match followingBytes l.bits l.low l.high 1 l.following bs with
    | (some code, taken) => (charOfCode? code, taken)
    | (none, taken) => (none, taken)

/-- The characters of bytes, each `none` for a part that is no text; at most `fuel` of them. -/
def decodeFrom : (fuel : Nat) → List Nat → List (Option Char)
  | _, [] => []
  | 0, _ :: _ => []
  | fuel + 1, b :: bs =>
    let (c, taken) := firstChar b bs
    c :: decodeFrom fuel (bs.drop (taken - 1))

/-- The text of bytes, unless a part of them is no text. -/
def decode? (bytes : List Nat) : Option String :=
  ((decodeFrom bytes.length bytes).mapM id).map String.ofList

/-- The text of bytes, with a replacement character for each part that is no text. -/
def decodeLossy (bytes : List Nat) : String :=
  String.ofList ((decodeFrom bytes.length bytes).map fun c => c.getD (Char.ofNat 0xFFFD))

end DisplayGen.Text
