import DisplayGen.Text.Chars
import DisplayGen.Text.Split

/-!
# Quoted literals

The body of a string, byte string or C string is read one character at a time by a small automaton
(`Quoted.step`); each flavour says which characters and escapes it admits. Raw forms end at a quote
followed by as many number signs as stood in front.
-/

namespace DisplayGen.Source.Lexer

open DisplayGen.Text

/-- The text after a literal's suffix, if an identifier follows the literal at once. -/
def afterSuffix : List Char → List Char
  | c :: r => if isIdentStart c then r.dropWhile isIdentContinue else c :: r
  | [] => []

/-- The flavours of quoted text. -/
inductive Flavour where
  | text
  | bytes
  | cText
  deriving DecidableEq, Repr

namespace Flavour

/-- The characters that may stand in the body as they are. -/
def admits : Flavour → Char → Bool
  | .text, _ => true
  | .bytes, c => c.toNat < 128
  | .cText, c => c.toNat != 0

/-- The escapes that are one letter long. -/
def isShortEscape : Flavour → Char → Bool
  | .cText, c => c ∈ ['n', 'r', 't', '\\', '\'', '\"']
  | _, c => c ∈ ['n', 'r', 't', '\\', '\'', '\"', '0']

/-- The value of an escape `\xHL` is admitted. -/
def admitsHex : Flavour → (high low : Nat) → Bool
  | .text, high, _ => high < 8
  | .bytes, _, _ => true
  | .cText, high, low => high != 0 || low != 0

/-- The value of an escape `\u` is admitted. -/
def admitsCode : Flavour → Nat → Bool
  | .text, n => (charOfCode? n).isSome
  | .bytes, _ => false
  | .cText, n => (charOfCode? n).isSome && n != 0

end Flavour

namespace Quoted

/-- Where the reader of a quoted body stands. -/
inductive Mode where
  /-- In the plain text of the body. -/
  | plain
  /-- After a carriage return, which only a line feed may follow. -/
  | afterReturn
  /-- After a backslash. -/
  | escape
  /-- After `\x`. -/
  | hexHigh
  /-- After `\x` and one digit of the given value. -/
  | hexLow (high : Nat)
  /-- After `\u`. -/
  | codeOpen
  /-- In `\u{`, after `count` digits of the given value. -/
  | code (count value : Nat)
  /-- In the blanks after a backslash at the end of a line. -/
  | lineBreak
  /-- In those blanks, after a carriage return. -/
  | lineBreakReturn
  deriving DecidableEq, Repr

/-- What one character does. -/
inductive Move where
  | goto (m : Mode)
  | close
  | reject
  deriving DecidableEq, Repr

/-- A character of the plain text. -/
def stepPlain (f : Flavour) (c : Char) : Move :=
  if c = '\"' then .close
  else if c = '\r' then .goto .afterReturn
  else if c = '\\' then .goto .escape
  else if f.admits c then .goto .plain
  else .reject

/-- The automaton of a quoted body. -/
def step (f : Flavour) : Mode → Char → Move
  | .plain, c => stepPlain f c
  | .afterReturn, c => if c = '\n' then .goto .plain else .reject
  | .escape, c =>
    if c = 'x' then .goto .hexHigh
    else if c = 'u' && f != .bytes then .goto .codeOpen
    else if c = '\n' then .goto .lineBreak
    else if c = '\r' then .goto .lineBreakReturn
    else if f.isShortEscape c then .goto .plain
    else .reject
  | .hexHigh, c =>
    match hexValue? c with
    | some v => .goto (.hexLow v)
    | none => .reject
  | .hexLow high, c =>
    match hexValue? c with
    | some v => if f.admitsHex high v then .goto .plain else .reject
    | none => .reject
  | .codeOpen, c => if c = '{' then .goto (.code 0 0) else .reject
  | .code count value, c =>
    if c = '_' && 0 < count then .goto (.code count value)
    else if c = '}' && 0 < count then if f.admitsCode value then .goto .plain else .reject
    else
      match hexValue? c with
      | some v => if count < 6 then .goto (.code (count + 1) (value * 16 + v)) else .reject
      | none => .reject
  | .lineBreak, c =>
    if c = ' ' || c = '\t' || c = '\n' then .goto .lineBreak
    else if c = '\r' then .goto .lineBreakReturn
    else stepPlain f c
  | .lineBreakReturn, c => if c = '\n' then .goto .lineBreak else .reject

/-- The text after the closing quote of a body that is read from the given mode on. -/
def close? (f : Flavour) : Mode → List Char → Option (List Char)
  | _, [] => none
  | m, c :: r =>
    match step f m c with
    | .goto m' => close? f m' r
    | .close => some r
    | .reject => none

end Quoted

/-- The number of number signs before the opening quote of a raw literal, and the text after that
quote. -/
def rawOpening? (cs : List Char) : Option (Nat × List Char) :=
  let signs := cs.takeWhile (· = '#')
  match cs.dropWhile (· = '#') with
  | '\"' :: r => if signs.length ≤ 255 then some (signs.length, r) else none
  | _ => none

/-- The text after the end of a raw body with the given number of number signs. -/
def rawClose? (f : Flavour) (signs : Nat) : List Char → Option (List Char)
  | [] => none
  | '\"' :: r =>
    match afterStart? (List.replicate signs '#') r with
    | some rest => some rest
    | none => rawClose? f signs r
  | '\r' :: '\n' :: r => rawClose? f signs r
  | '\r' :: _ => none
  | c :: r => if f.admits c then rawClose? f signs r else none

/-- The text after a quoted literal, whose opening quote has been read. -/
def afterQuoted? (f : Flavour) (cs : List Char) : Option (List Char) :=
  (Quoted.close? f .plain cs).map afterSuffix

/-- The text after a raw literal, whose `r` has been read. -/
def afterRaw? (f : Flavour) (cs : List Char) : Option (List Char) :=
  match rawOpening? cs with
  | some (signs, r) => (rawClose? f signs r).map afterSuffix
  | none => none

/-- The text after the escape that follows `\u` in a character literal. -/
def afterCode? : (count value : Nat) → List Char → Option (List Char)
  | _, _, [] => none
  | count, value, c :: r =>
    if c = '_' && 0 < count then afterCode? count value r
    else if c = '}' && 0 < count then if (charOfCode? value).isSome then some r else none
    else
      match hexValue? c with
      | some v => if count < 6 then afterCode? (count + 1) (value * 16 + v) r else none
      | none => none

/-- The text after the one character or escape of a character or byte literal. -/
def afterUnit? (f : Flavour) : List Char → Option (List Char)
  | '\\' :: 'x' :: a :: b :: r =>
    match hexValue? a, hexValue? b with
    | some high, some low => if f.admitsHex high low then some r else none
    | _, _ => none
  | '\\' :: 'u' :: '{' :: r => if f = .text then afterCode? 0 0 r else none
  | '\\' :: c :: r => if f.isShortEscape c then some r else none
  | '\\' :: [] => none
  | c :: r => if f.admits c then some r else none
  | [] => none

/-- The text after a character or byte literal, whose opening quote has been read. -/
def afterChar? (f : Flavour) (cs : List Char) : Option (List Char) :=
  match afterUnit? f cs with
  | some ('\'' :: r) => some (afterSuffix r)
  | _ => none

end DisplayGen.Source.Lexer
