import DisplayGen.Text.Chars

/-!
# Number literals

A number with a point or an exponent is read first (`afterReal?`), then a whole one (`afterWhole?`).
Both take an identifier that follows at once as their suffix.
-/

namespace DisplayGen.Source.Lexer

open DisplayGen.Text

/-- What ends the digits of a number's mantissa. -/
inductive Mantissa where
  /-- The digits end here; `point` says whether a point was among them. -/
  | done (point : Bool) (rest : List Char)
  /-- An exponent letter follows, after which the text goes on with `rest`. -/
  | exponent (point : Bool) (letter : Char) (rest : List Char)
  /-- A point that belongs to something else follows. -/
  | foreignPoint

/-- The digits of a mantissa after its first one. -/
def scanMantissa (point : Bool) : List Char → Mantissa
  | [] => .done point []
  | c :: r =>
    if isAsciiDigit c || c = '_' then scanMantissa point r
    else if c = '.' then
      if point then .done point (c :: r)
      else
        match r with
        | [] => .done true []
        | d :: r' => if d = '.' || isIdentStart d then .foreignPoint else scanMantissa true (d :: r')
    else if c = 'e' || c = 'E' then .exponent point c r
    else .done point (c :: r)

/-- The text after an exponent; none if it has no digits. -/
def afterExponent? (sign value : Bool) : List Char → Option (List Char)
  | [] => if value then some [] else none
  | c :: r =>
    if c = '+' || c = '-' then
      if value then some (c :: r) else if sign then none else afterExponent? true value r
    else if isAsciiDigit c then afterExponent? sign true r
    else if c = '_' then afterExponent? sign value r
    else if value then some (c :: r) else none

/-- The text after the suffix of a number, after which no word may go on. -/
def afterNumberSuffix? : List Char → Option (List Char)
  | [] => some []
  | c :: r =>
    if isIdentStart c then some (r.dropWhile isIdentContinue)
    else if isIdentContinue c then none
    else some (c :: r)

/-- The text after a number with a point or an exponent. -/
def afterReal? : List Char → Option (List Char)
  | [] => none
  | c :: r =>
    if isAsciiDigit c then
      match scanMantissa false r with
      | .done true rest => afterNumberSuffix? rest
      | .done false _ => none
      | .foreignPoint => none
      | .exponent point letter rest =>
        match afterExponent? false false rest with
        | some rest' => afterNumberSuffix? rest'
        | none => if point then afterNumberSuffix? (letter :: rest) else none
    else none

/-- The text after the digits of a whole number in the given base; none if there is none, or if a
decimal digit is too large for the base. -/
def afterDigits? (base : Nat) (empty : Bool) : List Char → Option (List Char)
  | [] => if empty then none else some []
  | c :: r =>
    if c = '_' then if empty && base = 10 then none else afterDigits? base empty r
    else
      match hexValue? c with
      | some v =>
        if v < base then afterDigits? base false r
        else if v < 10 then none
        else if empty then none
        else some (c :: r)
      | none => if empty then none else some (c :: r)

/-- The text after a whole number. -/
def afterWhole? (cs : List Char) : Option (List Char) :=
  let digits :=
    match cs with
    | '0' :: 'x' :: r => afterDigits? 16 true r
    | '0' :: 'o' :: r => afterDigits? 8 true r
    | '0' :: 'b' :: r => afterDigits? 2 true r
    | _ => afterDigits? 10 true cs
  match digits with
  | some rest => afterNumberSuffix? rest
  | none => none

/-- The text after a number. -/
def afterNumber? (cs : List Char) : Option (List Char) :=
  match afterReal? cs with
  | some rest => some rest
  | none => afterWhole? cs

end DisplayGen.Source.Lexer
