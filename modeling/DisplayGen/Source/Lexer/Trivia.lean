import DisplayGen.Text.Chars
import DisplayGen.Text.Split

/-!
# Blanks and comments

Between tokens stand blanks, line comments and nested block comments. Comments that document an
item (`///`, `/** */` and their inner forms) are not trivia: they are read as tokens.
-/

namespace DisplayGen.Source.Lexer

open DisplayGen.Text

/-- The text after the end of a block comment, at a place where `depth` of them are open. -/
def closeBlock : (depth : Nat) → List Char → Option (List Char)
  | _, [] => none
  | depth, '/' :: '*' :: r => closeBlock (depth + 1) r
  | 0, '*' :: '/' :: _ => none
  | 1, '*' :: '/' :: r => some r
  | depth + 2, '*' :: '/' :: r => closeBlock (depth + 1) r
  | depth, _ :: r => closeBlock depth r

/-- The rest of a line, and the text from its line break on. -/
def splitLine (cs : List Char) : List Char × List Char := (cs.takeWhile (· ≠ '\n'), cs.dropWhile (· ≠ '\n'))

/-- The text after one blank or comment, if it begins with one. -/
def afterTrivia? : List Char → Option (List Char)
  | '/' :: '/' :: '/' :: '/' :: r => some (splitLine r).2
  | '/' :: '/' :: '/' :: _ => none
  | '/' :: '/' :: '!' :: _ => none
  | '/' :: '/' :: r => some (splitLine r).2
  | '/' :: '*' :: '*' :: '/' :: r => some r
  | '/' :: '*' :: '*' :: '*' :: r => closeBlock 1 ('*' :: '*' :: r)
  | '/' :: '*' :: '*' :: _ => none
  | '/' :: '*' :: '!' :: _ => none
  | '/' :: '*' :: r => closeBlock 1 r
  | c :: r => if isTokenSpace c then some r else none
  | [] => none

/-- The text without the blanks and comments at its beginning; `fuel` bounds their number. -/
def skipTriviaFrom : (fuel : Nat) → List Char → List Char
  | 0, cs => cs
  | fuel + 1, cs =>
    match afterTrivia? cs with
    | some r => skipTriviaFrom fuel r
    | none => cs

/-- The text without the blanks and comments at its beginning. -/
def skipTrivia (cs : List Char) : List Char := skipTriviaFrom cs.length cs

/-- Each carriage return in the text is followed by a line feed. -/
def onlyPairedReturns : List Char → Bool
  | [] => true
  | '\r' :: '\n' :: r => onlyPairedReturns r
  | '\r' :: _ => false
  | _ :: r => onlyPairedReturns r

/-- A line without the carriage return of its line break. -/
def dropReturn (line rest : List Char) : List Char :=
  match rest, line.reverse with
  | '\n' :: _, '\r' :: r => r.reverse
  | _, _ => line

/-- A comment that documents something: its text, and whether it is of the inner form. -/
structure DocComment where
  inner : Bool
  text : List Char
  deriving DecidableEq, Repr

/-- The body of a block comment whose text after the opening is `cs`, and the text after it. -/
def blockBody (cs : List Char) : Option (List Char × List Char) :=
  match closeBlock 1 cs with
  | some r => some (cs.take (cs.length - r.length - 2), r)
  | none => none

/-- Reads a documenting comment at the beginning of the text. -/
def docComment? (cs : List Char) : Option (DocComment × List Char) :=
  let line (inner : Bool) (r : List Char) : DocComment × List Char :=
    let (l, rest) := splitLine r
    (⟨inner, dropReturn l rest⟩, rest)
  let block (inner : Bool) (r : List Char) : Option (DocComment × List Char) :=
    match blockBody r with
    | some (body, rest) => some (⟨inner, body⟩, rest)
    | none => none
  let found :=
    match cs with
    | '/' :: '/' :: '!' :: r => some (line true r)
    | '/' :: '*' :: '!' :: r => block true r
    | '/' :: '/' :: '/' :: '/' :: _ => none
    | '/' :: '/' :: '/' :: r => some (line false r)
    | '/' :: '*' :: '*' :: '*' :: _ => none
    | '/' :: '*' :: '*' :: r => block false r
    | _ => none
  match found with
  | some (d, rest) => if onlyPairedReturns d.text then some (d, rest) else none
  | none => none

end DisplayGen.Source.Lexer
