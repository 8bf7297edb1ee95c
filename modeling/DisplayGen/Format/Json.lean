import DisplayGen.Text.Chars
import DisplayGen.Text.Escape
import DisplayGen.Text.Scan

/-!
# JSON

`JsonValue.read?` reads a text and `JsonValue.pretty` writes a value with an indent of two blanks.

A string may spell half of a surrogate pair. It is then a string, but has no text (`none`).
-/

namespace DisplayGen.Format

open DisplayGen.Text

/-- A JSON value. Numbers are kept as they are written. -/
inductive JsonValue where
  | null
  | bool (b : Bool)
  | number (digits : List Char)
  | string (text : Option String)
  | array (items : List JsonValue)
  | object (members : List (Option String × JsonValue))
  deriving Inhabited

namespace JsonValue

/-! ## Reading -/

/-- A blank between the parts of a value. -/
def isBlank (c : Char) : Bool := c == ' ' || c == '\t' || c == '\n' || c == '\r'

/-- Skips blanks. -/
def blanks : Scan Unit := Scan.skipWhile isBlank

/-- A hexadecimal digit. -/
def hexDigit : Scan Nat := do
  match hexValue? (← Scan.next) with
  | some n => return n
  | none => Scan.fail

/-- Four hexadecimal digits. -/
def codeUnit : Scan Nat := do
  let a ← hexDigit
  let b ← hexDigit
  let c ← hexDigit
  let d ← hexDigit
  return ((a * 16 + b) * 16 + c) * 16 + d

/-- What stands after a backslash, as a code unit. -/
def escape : Scan Nat := do
  match ← Scan.next with
  | '\"' => return 0x22
  | '\\' => return 0x5C
  | '/' => return 0x2F
  | 'b' => return 8
  | 'f' => return 12
  | 'n' => return 10
  | 'r' => return 13
  | 't' => return 9
  | 'u' => codeUnit
  | _ => Scan.fail

/-- The code points of a string up to the closing quote; an escape may make half of a pair. -/
def codesFrom : Nat → Scan (List Nat)
  | 0 => Scan.fail
  | fuel + 1 => do
    match ← Scan.next with
    | '\"' => return []
    | '\\' =>
      let n ← escape
      let ns ← codesFrom fuel
      return n :: ns
    | c =>
      if c.toNat < 32 then Scan.fail
      else
        let ns ← codesFrom fuel
        return c.toNat :: ns

/-- The first half of a surrogate pair. -/
def isHigh (n : Nat) : Bool := 0xD800 ≤ n && n ≤ 0xDBFF

/-- The second half of a surrogate pair. -/
def isLow (n : Nat) : Bool := 0xDC00 ≤ n && n ≤ 0xDFFF

/-- The characters of code points, with each surrogate pair as one character. -/
def charsOfCodes : List Nat → Option (List Char)
  | [] => some []
  | [n] => (charOfCode? n).map ([·])
  | m :: n :: r =>
    if isHigh m && isLow n then do
      let c ← charOfCode? (0x10000 + (m - 0xD800) * 0x400 + (n - 0xDC00))
      return c :: (← charsOfCodes r)
    else do
      let c ← charOfCode? m
      return c :: (← charsOfCodes (n :: r))

/-- The rest of a string after the opening quote. -/
def stringRest : Scan (Option String) := do
  return (charsOfCodes (← Scan.bounded codesFrom)).map String.ofList

/-- Digits, at least one. -/
def digits : Scan (List Char) := do
  let d ← Scan.oneOf isAsciiDigit
  return d :: (← Scan.takeWhile isAsciiDigit)

/-- The part of a number before the point. A zero at its beginning stands alone. -/
def wholePart : Scan (List Char) := do
  if ← Scan.text? "0" then
    if ← Scan.sees isAsciiDigit then Scan.fail else return ['0']
  else digits

/-- A number. -/
def numberText : Scan (List Char) := do
  let sign ← if ← Scan.text? "-" then pure ['-'] else pure []
  let whole ← wholePart
  let fraction ← if ← Scan.text? "." then pure ('.' :: (← digits)) else pure []
  let exponent ←
    if ← Scan.sees (fun c => c == 'e' || c == 'E') then do
      let e ← Scan.next
      let s ←
        if ← Scan.sees (fun c => c == '+' || c == '-') then pure [← Scan.next] else pure []
      pure (e :: s ++ (← digits))
    else pure []
  return sign ++ whole ++ fraction ++ exponent

mutual

/-- A value, after the blanks before it. -/
def valueFrom : Nat → Scan JsonValue
  | 0 => Scan.fail
  | fuel + 1 => do
    match ← Scan.peek? with
    | some '\"' =>
      Scan.char '\"'
      return .string (← stringRest)
    | some '[' =>
      Scan.char '['
      blanks
      if ← Scan.text? "]" then return .array []
      else return .array (← itemsFrom fuel)
    | some '{' =>
      Scan.char '{'
      blanks
      if ← Scan.text? "\x7d" then return .object []
      else return .object (← membersFrom fuel)
    | _ =>
      if ← Scan.text? "null" then return .null
      else if ← Scan.text? "true" then return .bool true
      else if ← Scan.text? "false" then return .bool false
      else return .number (← numberText)

/-- The items of an array, at least one, up to its closing bracket. -/
def itemsFrom : Nat → Scan (List JsonValue)
  | 0 => Scan.fail
  | fuel + 1 => do
    let v ← valueFrom fuel
    blanks
    if ← Scan.text? "]" then return [v]
    else
      Scan.char ','
      blanks
      let vs ← itemsFrom fuel
      return v :: vs

/-- The members of an object, at least one, up to its closing brace. -/
def membersFrom : Nat → Scan (List (Option String × JsonValue))
  | 0 => Scan.fail
  | fuel + 1 => do
    Scan.char '\"'
    let key ← stringRest
    blanks
    Scan.char ':'
    blanks
    let v ← valueFrom fuel
    blanks
    if ← Scan.text? "\x7d" then return [(key, v)]
    else
      Scan.char ','
      blanks
      let ms ← membersFrom fuel
      return (key, v) :: ms

end

/-- A text that holds one value. -/
def document : Scan JsonValue := do
  blanks
  let v ← Scan.bounded fun n => valueFrom (2 * n)
  blanks
  return v

/-- The value that a text holds. -/
def read? (text : String) : Option JsonValue := Scan.whole? document text.toList

/-! ## Taking values apart -/

/-- The text of a string. -/
def text? : JsonValue → Option String
  | .string text => text
  | _ => none

/-- The texts of an array of strings. -/
def texts? : JsonValue → Option (List String)
  | .array items => items.mapM text?
  | _ => none

/-- The members of an object by name. Each name must be a text, and one of the given names must not
stand twice. -/
def fields? (names : List String) (members : List (Option String × JsonValue)) :
    Option (List (String × JsonValue)) := do
  let fields ← members.mapM fun m => m.1.map fun name => (name, m.2)
  if names.any fun n => 1 < (fields.filter fun f => f.1 = n).length then none else some fields

/-! ## Writing -/

/-- A string with a text. -/
def ofText (text : String) : JsonValue := .string (some text)

/-- A control character in four hexadecimal digits. -/
def controlEscape (c : Char) : List Char :=
  ['\\', 'u', '0', '0', Text.hexDigit (c.toNat / 16), Text.hexDigit (c.toNat % 16)]

/-- A character as it stands between quotes. -/
def escapeChar (c : Char) : List Char :=
  if c = '\"' then ['\\', '\"']
  else if c = '\\' then ['\\', '\\']
  else if c.toNat = 8 then ['\\', 'b']
  else if c.toNat = 12 then ['\\', 'f']
  else if c = '\n' then ['\\', 'n']
  else if c = '\r' then ['\\', 'r']
  else if c = '\t' then ['\\', 't']
  else if c.toNat < 32 then controlEscape c
  else [c]

/-- A text between quotes. -/
def quote (s : String) : List Char := '\"' :: s.toList.flatMap escapeChar ++ ['\"']

/-- A line break and a margin. -/
def newLine (indent : Nat) : List Char := '\n' :: List.replicate indent ' '

mutual

/-- A value as a text; the lines after its first begin with a margin. -/
def prettyAt (indent : Nat) : JsonValue → List Char
  | .null => "null".toList
  | .bool b => (if b then "true" else "false").toList
  | .number ds => ds
  | .string s => quote (s.getD "")
  | .array [] => ['[', ']']
  | .array (v :: vs) =>
    '[' :: newLine (indent + 2) ++ prettyAt (indent + 2) v ++ prettyItems (indent + 2) vs ++
      newLine indent ++ [']']
  | .object [] => ['\x7b', '\x7d']
  | .object ((k, v) :: ms) =>
    '\x7b' :: newLine (indent + 2) ++ quote (k.getD "") ++ [':', ' '] ++ prettyAt (indent + 2) v ++
      prettyMembers (indent + 2) ms ++ newLine indent ++ ['\x7d']

/-- The further items of an array. -/
def prettyItems (indent : Nat) : List JsonValue → List Char
  | [] => []
  | v :: vs => ',' :: newLine indent ++ prettyAt indent v ++ prettyItems indent vs

/-- The further members of an object. -/
def prettyMembers (indent : Nat) : List (Option String × JsonValue) → List Char
  | [] => []
  | (k, v) :: ms =>
    ',' :: newLine indent ++ quote (k.getD "") ++ [':', ' '] ++ prettyAt indent v ++
      prettyMembers indent ms

end

/-- A value as a text. -/
def pretty (v : JsonValue) : String := String.ofList (prettyAt 0 v)

end JsonValue

end DisplayGen.Format
