import DisplayGen.Format.Word
import DisplayGen.Text.Scan
import DisplayGen.Text.Utf8

/-!
# RON

`RonValue.readStruct?` reads a document that holds one struct: fields between round brackets,
perhaps behind the struct's name and behind attributes that enable extensions of the format. Values
of fields that nobody asks for may be anything that the format knows.

A document is bytes, and each byte is one character of the scan. Only texts and characters have to
be UTF-8 (`decoded`); a comment may hold any bytes.
-/

namespace DisplayGen.Format

open DisplayGen.Text

/-- A value, as far as fields of texts and whole numbers need it. -/
inductive RonValue where
  | text (s : String)
  /-- A whole number without sign, of 64 bits at most. -/
  | natural (n : Nat)
  /-- Any other value. -/
  | other
  deriving DecidableEq, Repr, Inhabited

namespace RonValue

/-! ## Blanks and comments -/

/-- A blank. -/
def isBlank (c : Char) : Bool := c == ' ' || c == '\t' || c == '\n' || c == '\r'

/-- The text after the end of a block comment, at a place where `depth + 1` of them are open. -/
def closeComment : (depth : Nat) → List Char → Option (List Char)
  | _, [] => none
  | depth, '/' :: '*' :: r => closeComment (depth + 1) r
  | 0, '*' :: '/' :: r => some r
  | depth + 1, '*' :: '/' :: r => closeComment depth r
  | depth, _ :: r => closeComment depth r

/-- Skips blanks and comments, of which there are at most `fuel`. A stroke begins nothing else. -/
def blanksFrom : (fuel : Nat) → Scan Unit
  | 0 => Scan.fail
  | fuel + 1 => do
    Scan.skipWhile isBlank
    if ← Scan.text? "/" then
      match ← Scan.next with
      | '/' => Scan.skipWhile (· ≠ '\n')
      | '*' => fun cs => (closeComment 0 cs).map fun r => ((), r)
      | _ => Scan.fail
      blanksFrom fuel
    else return ()

/-- Skips blanks and comments. -/
def blanks : Scan Unit := Scan.bounded blanksFrom

/-- Skips a comma with the blanks around it. -/
def comma : Scan Bool := do
  blanks
  if ← Scan.text? "," then
    blanks
    return true
  else return false

/-! ## Identifiers -/

/-- A character that may begin an identifier. -/
def beginsIdent (c : Char) : Bool := c == '_' || isAsciiLetter c

/-- A character that may continue an identifier. -/
def continuesIdent (c : Char) : Bool := beginsIdent c || isAsciiDigit c

/-- A character that may stand in a raw identifier. -/
def inRawIdent (c : Char) : Bool := continuesIdent c || c == '.' || c == '+' || c == '-'

/-- An identifier, plain or raw. A plain one is not followed by a character of raw ones. -/
def ident : Scan (List Char) := fun cs =>
  match cs with
  | 'r' :: '\"' :: _ => none
  | 'r' :: '#' :: c :: r =>
    if inRawIdent c then some ((c :: r).takeWhile inRawIdent, (c :: r).dropWhile inRawIdent) else none
  | ['r', '#'] => none
  | ['r'] => none
  | 'r' :: r => some ('r' :: r.takeWhile continuesIdent, r.dropWhile continuesIdent)
  | c :: r =>
    if beginsIdent c then
      match r.dropWhile continuesIdent with
      | d :: after => if inRawIdent d then none else some (c :: r.takeWhile continuesIdent, d :: after)
      | [] => some (c :: r.takeWhile continuesIdent, [])
    else none
  | [] => none

/-- The given word, if it comes next and goes no further. -/
def word? (w : String) : Scan Bool := fun cs =>
  match afterStart? w.toList cs with
  | some (c :: r) => if continuesIdent c then some (false, cs) else some (true, c :: r)
  | some [] => some (true, [])
  | none => some (false, cs)

/-! ## Texts and characters -/

/-- The bytes of a character. -/
def bytesOf (c : Char) : List Char := (encode (String.singleton c)).map Char.ofNat

/-- The text that bytes stand for. -/
def decoded (bytes : List Char) : Scan String := fun cs =>
  (decode? (bytes.map Char.toNat)).map fun s => (s, cs)

/-- A hexadecimal digit. -/
def hexDigit : Scan Nat := do
  match hexValue? (← Scan.next) with
  | some n => return n
  | none => Scan.fail

/-- Up to `fuel` hexadecimal digits, after those of the given value. -/
def codeDigits (value : Nat) : (fuel : Nat) → Scan Nat
  | 0 => return value
  | fuel + 1 => do
    match ← Scan.peek? with
    | none => Scan.fail
    | some '\x7d' => return value
    | some _ => codeDigits (value * 16 + (← hexDigit)) fuel

/-- A code point between braces. -/
def bracedCode : Scan Char := do
  Scan.char '\x7b'
  if ← Scan.sees (· == '\x7d') then Scan.fail
  let n ← codeDigits 0 6
  Scan.char '\x7d'
  match charOfCode? n with
  | some c => return c
  | none => Scan.fail

/-- What stands after a backslash. -/
def escape : Scan Char := do
  match ← Scan.next with
  | '\'' => return '\''
  | '\"' => return '\"'
  | '\\' => return '\\'
  | 'n' => return '\n'
  | 'r' => return '\r'
  | 't' => return '\t'
  | '0' => return Char.ofNat 0
  | 'x' =>
    let a ← hexDigit
    return Char.ofNat (a * 16 + (← hexDigit))
  | 'u' => bracedCode
  | _ => Scan.fail

/-- The bytes of the rest of a text up to the closing quote. -/
def quotedFrom : Nat → Scan (List Char)
  | 0 => Scan.fail
  | fuel + 1 => do
    match ← Scan.next with
    | '\"' => return []
    | '\\' =>
      let c ← escape
      let cs ← quotedFrom fuel
      return bytesOf c ++ cs
    | c =>
      let cs ← quotedFrom fuel
      return c :: cs

/-- The rest of a raw text: what stands before the given ending. -/
def before (ending : List Char) : List Char → Option (List Char × List Char)
  | [] => none
  | c :: r =>
    match afterStart? ending (c :: r) with
    | some after => some ([], after)
    | none => (before ending r).map fun (s, after) => (c :: s, after)

/-- A text, quoted or raw. -/
def quoted : Scan String := do
  if ← Scan.text? "\"" then decoded (← Scan.bounded quotedFrom)
  else
    Scan.char 'r'
    let hashes ← Scan.takeWhile (· == '#')
    Scan.char '\"'
    decoded (← before ('\"' :: hashes))

/-- A character between single quotes. -/
def quotedChar : Scan Unit := do
  Scan.char '\''
  if ← Scan.text? "\\" then
    let _ ← escape
  else
    let c ← decoded (← Scan.takeWhile (· ≠ '\''))
    if c.length ≠ 1 then Scan.fail
  Scan.char '\''

/-! ## Numbers -/

/-- A character of a whole number in any base. -/
def inWhole (c : Char) : Bool := (hexValue? c).isSome || c == '_'

/-- A character of a number with a point or an exponent. -/
def inReal (c : Char) : Bool :=
  isAsciiDigit c || c == 'e' || c == 'E' || c == '.' || c == '+' || c == '-' || c == '_'

/-- The value of digits in a base, with underscores between them. -/
def wholeValue (base value : Nat) : List Char → Option Nat
  | [] => some value
  | c :: r =>
    if c = '_' then wholeValue base value r
    else
      match hexValue? c with
      | some d => if d < base then wholeValue base (value * base + d) r else none
      | none => none

/-- The base of a whole number: ten, or the one that two characters announce. -/
def base : Scan Nat := do
  if ← Scan.text? "0x" then return 16
  else if ← Scan.text? "0b" then return 2
  else if ← Scan.text? "0o" then return 8
  else return 10

/-- A whole number without sign. -/
def whole : Scan Nat := do
  let base ← base
  let ds ← Scan.takeWhile inWhole
  match ds with
  | [] => Scan.fail
  | '_' :: _ => Scan.fail
  | _ =>
    match wholeValue base 0 ds with
    | some n => return n
    | none => Scan.fail

/-- An exponent's digits, or nothing at all. -/
def isExponentRest : List Char → Bool
  | [] => true
  | e :: r =>
    (e == 'e' || e == 'E') &&
      (let ds := match r with
        | '+' :: ds => ds
        | '-' :: ds => ds
        | ds => ds
       !ds.isEmpty && ds.all isAsciiDigit)

/-- The text is a decimal number: a sign, digits around a point, an exponent. -/
def isReal (cs : List Char) : Bool :=
  let cs := match cs with
    | '+' :: r => r
    | '-' :: r => r
    | r => r
  let front := cs.takeWhile isAsciiDigit
  match cs.dropWhile isAsciiDigit with
  | '.' :: r =>
    let back := r.takeWhile isAsciiDigit
    !(front.isEmpty && back.isEmpty) && isExponentRest (r.dropWhile isAsciiDigit)
  | r => !front.isEmpty && isExponentRest r

/-- The first of the words that comes next is taken, if there is one. -/
def oneWord? : List String → Scan Bool
  | [] => return false
  | w :: ws => do if ← word? w then return true else oneWord? ws

/-- The numbers that have no digits. -/
def realWords : List String := ["inf", "+inf", "-inf", "NaN", "+NaN", "-NaN"]

/-- A number with a point or an exponent, or one without digits. -/
def real : Scan RonValue := do
  if ← oneWord? realWords then return .other
  let cs ← Scan.takeWhile inReal
  if isReal cs then return .other else Scan.fail

/-- The text goes on as a number with a point or an exponent. -/
def realFollows (cs : List Char) : Bool :=
  let cs := match cs with
    | '+' :: r => r
    | '-' :: r => r
    | r => r
  (cs.takeWhile inWhole).length < (cs.takeWhile inReal).length

/-- A whole number behind a sign that fits into 64 bits. -/
def signed : Scan RonValue := do
  let negative ← Scan.text? "-"
  if !negative then Scan.char '+'
  let n ← whole
  if fitsSigned negative n then return .other else Scan.fail

/-- A whole number without sign that fits into 64 bits. -/
def unsigned : Scan RonValue := do
  let n ← whole
  if fitsUnsigned n then return .natural n else Scan.fail

/-- A number. One that is no whole number of 64 bits is read as one with a point. -/
def number : Scan RonValue := do
  let isSigned ← Scan.sees fun c => c == '+' || c == '-'
  if realFollows (← Scan.rest) then real
  else
    match ← Scan.attempt (if isSigned then signed else unsigned) with
    | some v => return v
    | none => real

/-! ## Values -/

/-- The content of round brackets is a list of values, and not of fields. -/
def isTuple : Scan Bool := fun cs =>
  match ident cs with
  | none => some (true, cs)
  | some (_, r) =>
    match blanks r with
    | some (_, ':' :: _) => some (false, cs)
    | some (_, _ :: _) => some (true, cs)
    | _ => none

/-- Elements up to a closing character, with a comma between each two and perhaps one at the end; at
most `fuel` of them. -/
def elementsFrom {α : Type} (close : Char) (p : Scan α) (mayFollow : Bool) : (fuel : Nat) → Scan (List α)
  | 0 => Scan.fail
  | fuel + 1 => do
    blanks
    match ← Scan.peek? with
    | none => Scan.fail
    | some c =>
      if c = close then
        Scan.char close
        return []
      else if !mayFollow then Scan.fail
      else
        let a ← p
        let again ← comma
        let as ← elementsFrom close p again fuel
        return a :: as

/-- Elements up to a closing character. -/
def elements {α : Type} (close : Char) (p : Scan α) : Scan (List α) :=
  Scan.bounded (elementsFrom close p true)

/-- A key with its value. -/
def pair {α β : Type} (key : Scan α) (value : Scan β) : Scan (α × β) := do
  let k ← key
  blanks
  Scan.char ':'
  blanks
  let v ← value
  return (k, v)

/-- What stands between round brackets, after the opening one. -/
def bracketed (value : Scan RonValue) : Scan Unit := do
  blanks
  if ← isTuple then
    let _ ← elements ')' value
  else
    let _ ← elements ')' (pair ident value)

/-- The extensions of the format. -/
def extensions : List String := ["unwrap_newtypes", "implicit_some", "unwrap_variant_newtypes"]

/-- What may stand in a value. -/
structure Nesting where
  /-- The brackets behind `Some` may be left out. -/
  implicitSome : Bool
  /-- The value behind `Some`. -/
  optional : Scan RonValue
  /-- Whether brackets may be opened. -/
  mayOpen : Bool
  /-- The values between brackets. -/
  value : Scan RonValue

/-- The value behind `Some`. -/
def someValue (n : Nesting) : Scan RonValue := do
  blanks
  if ← Scan.text? "(" then
    blanks
    let _ ← n.optional
    let _ ← comma
    Scan.char ')'
    return .other
  else if n.implicitSome then
    let _ ← n.optional
    return .other
  else Scan.fail

/-- A value, by what may stand in it. -/
def valueWith (n : Nesting) : Scan RonValue := do
  let opening : Scan Unit := if n.mayOpen then return () else Scan.fail
  if ← oneWord? ["true", "false"] then return .other
  else if ← word? "Some" then someValue n
  else if ← word? "None" then return .other
  else if ← Scan.text? "()" then return .other
  else if ← oneWord? ["inf", "-inf", "NaN"] then return .other
  else
    match ← Scan.attempt ident with
    | some _ =>
      blanks
      if ← Scan.text? "(" then
        opening
        bracketed n.value
      return .other
    | none =>
      match ← Scan.peek? with
      | some '(' =>
        opening
        Scan.char '('
        bracketed n.value
        return .other
      | some '[' =>
        opening
        Scan.char '['
        let _ ← elements ']' n.value
        return .other
      | some '\x7b' =>
        opening
        Scan.char '\x7b'
        let _ ← elements '\x7d' (pair n.value n.value)
        return .other
      | some '\"' => return .text (← quoted)
      | some 'r' => return .text (← quoted)
      | some '\'' =>
        quotedChar
        return .other
      | some '.' => real
      | some c => if isAsciiDigit c || c == '+' || c == '-' then number else Scan.fail
      | none => Scan.fail

/-- A value in which so many steps of nesting are left: brackets take two steps, `Some` takes one.
-/
def valueFrom (implicitSome : Bool) : (steps : Nat) → Scan RonValue
  | 0 => valueWith ⟨implicitSome, Scan.fail, false, Scan.fail⟩
  | 1 => valueWith ⟨implicitSome, valueFrom implicitSome 0, true, Scan.fail⟩
  | n + 2 => valueWith ⟨implicitSome, valueFrom implicitSome (n + 1), true, valueFrom implicitSome n⟩

/-- How many steps of nesting are left for the value of a field of the document's struct. -/
def fieldSteps : Nat := 126

/-! ## Documents -/

/-- The names of extensions up to the closing bracket, at least one and at most `fuel`. -/
def extensionNamesFrom : (fuel : Nat) → Scan (List String)
  | 0 => Scan.fail
  | fuel + 1 => do
    let name := String.ofList (← ident)
    if !extensions.contains name then Scan.fail
    let again ← comma
    if ← Scan.sees continuesIdent then
      if again then
        let names ← extensionNamesFrom fuel
        return name :: names
      else Scan.fail
    else return [name]

/-- The parts of a sequence with blanks after each. -/
def spaced : List String → Scan Unit
  | [] => return ()
  | s :: ss => do
    Scan.text s
    blanks
    spaced ss

/-- Attributes at the beginning of a document, at most `fuel` of them: the extensions that they
enable. -/
def attributesFrom : (fuel : Nat) → Scan (List String)
  | 0 => Scan.fail
  | fuel + 1 => do
    if ← Scan.sees (· == '#') then
      spaced ["#", "!", "[", "enable", "("]
      let names ← Scan.bounded extensionNamesFrom
      blanks
      spaced [")", "]"]
      let more ← attributesFrom fuel
      return names ++ more
    else return []

/-- A document that holds a struct: the fields in source order. -/
def struct (name : String) : Scan (List (String × RonValue)) := do
  blanks
  let enabled ← Scan.bounded attributesFrom
  if ← Scan.sees continuesIdent then
    let found ← ident
    if String.ofList found ≠ name then Scan.fail
  blanks
  Scan.char '('
  let fields ← elements ')' (pair ident (valueFrom (enabled.contains "implicit_some") fieldSteps))
  blanks
  return fields.map fun (k, v) => (String.ofList k, v)

/-- The fields of the struct that bytes hold. -/
def readStruct? (name : String) (bytes : List Nat) : Option (List (String × RonValue)) :=
  Scan.whole? (struct name) (bytes.map Char.ofNat)

end RonValue

end DisplayGen.Format
