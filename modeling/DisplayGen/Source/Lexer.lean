import DisplayGen.Source.Token
import DisplayGen.Source.Lexer.Trivia
import DisplayGen.Source.Lexer.Quoted
import DisplayGen.Source.Lexer.Number
import DisplayGen.Text.Escape

/-!
# Lexing

`Token.scan?` reads a text into tokens and `TokenTree.scan?` into token trees. A documenting comment
is read as the attribute that it stands for: `/// text` is `#[doc = " text"]`.
-/

namespace DisplayGen.Source

open DisplayGen.Text

namespace Lexer

/-- The characters of which operators and separators are made. -/
def isPunctChar (c : Char) : Bool :=
  c ∈ ['~', '!', '@', '#', '$', '%', '^', '&', '*', '-', '=', '+', '|', ';', ':', ',', '<', '.',
    '>', '/', '?', '\'']

/-- A punctuation character at the beginning of the text; a comment does not begin with one. -/
def punctChar? : List Char → Option (Char × List Char)
  | '/' :: '/' :: _ => none
  | '/' :: '*' :: _ => none
  | c :: r => if isPunctChar c then some (c, r) else none
  | [] => none

/-- A plain word at the beginning of the text. -/
def word? : List Char → Option (List Char × List Char)
  | c :: r =>
    if isIdentStart c then some (c :: r.takeWhile isIdentContinue, r.dropWhile isIdentContinue)
    else none
  | [] => none

/-- The word at the beginning of the text as an identifier. -/
def identOf? (raw : Bool) (cs : List Char) : Option (Ident × List Char) :=
  match word? cs with
  | some (w, rest) => (Ident.ofName? raw (String.ofList w)).map fun i => (i, rest)
  | none => none

/-- An identifier, plain or raw, at the beginning of the text. -/
def ident? : List Char → Option (Ident × List Char)
  | 'r' :: '#' :: r => identOf? true r
  | cs => identOf? false cs

/-- The beginnings that announce a quoted literal, where no identifier may be read. -/
def announcesQuoted : List Char → Bool
  | 'r' :: '\"' :: _ => true
  | 'r' :: '#' :: '\"' :: _ => true
  | 'r' :: '#' :: '#' :: _ => true
  | 'b' :: '\"' :: _ => true
  | 'b' :: '\'' :: _ => true
  | 'b' :: 'r' :: '\"' :: _ => true
  | 'b' :: 'r' :: '#' :: _ => true
  | 'c' :: '\"' :: _ => true
  | 'c' :: 'r' :: '\"' :: _ => true
  | 'c' :: 'r' :: '#' :: _ => true
  | _ => false

/-- A literal at the beginning of the text: its kind, and the text after it. -/
def literalEnd? (cs : List Char) : Option (LiteralKind × List Char) :=
  let kinded (k : LiteralKind) (r : Option (List Char)) := r.map fun rest => (k, rest)
  match cs with
  | '\"' :: r => kinded .string (afterQuoted? .text r)
  | 'r' :: r => kinded .string (afterRaw? .text r)
  | 'b' :: '\"' :: r => kinded .byteString (afterQuoted? .bytes r)
  | 'b' :: 'r' :: r => kinded .byteString (afterRaw? .bytes r)
  | 'b' :: '\'' :: r => kinded .byte (afterChar? .bytes r)
  | 'c' :: '\"' :: r => kinded .cString (afterQuoted? .cText r)
  | 'c' :: 'r' :: r => kinded .cString (afterRaw? .cText r)
  | '\'' :: r => kinded .char (afterChar? .text r)
  | _ => kinded .number (afterNumber? cs)

/-- What stands before a later part of the text. -/
def upTo (cs rest : List Char) : List Char := cs.take (cs.length - rest.length)

/-- A quote that begins a lifetime: an identifier follows it, and no further quote. -/
def lifetimeQuote? (r : List Char) : Bool :=
  match ident? r with
  | none => false
  | some (i, rest) =>
    match rest with
    | '\'' :: _ => false
    | '#' :: _ => i.raw
    | _ => true

/-- A punctuation token at the beginning of the text. -/
def punct? (cs : List Char) : Option (Token × List Char) :=
  match punctChar? cs with
  | none => none
  | some (c, r) =>
    if c = '\'' then if lifetimeQuote? r then some (.punct c true, r) else none
    else some (.punct c (punctChar? r).isSome, r)

/-- A bracket. -/
def bracket? : Char → Option Token
  | '(' => some (.opening .paren)
  | '[' => some (.opening .bracket)
  | '{' => some (.opening .brace)
  | ')' => some (.closing .paren)
  | ']' => some (.closing .bracket)
  | '}' => some (.closing .brace)
  | _ => none

/-- The text of the literal that stands for code which could not be written out. -/
def placeholderText : List Char := ['(', '/', '*', 'E', 'R', 'R', 'O', 'R', '*', '/', ')']

/-- A token that is no bracket. -/
def leaf? (cs : List Char) : Option (Token × List Char) :=
  match literalEnd? cs with
  | some (k, rest) => some (.literal ⟨k, upTo cs rest⟩, rest)
  | none =>
    match punct? cs with
    | some found => some found
    | none =>
      if announcesQuoted cs then none
      else
        match ident? cs with
        | some (i, rest) => some (.ident i, rest)
        | none => none

/-- A token at the beginning of the text. -/
def token? (cs : List Char) : Option (Token × List Char) :=
  match afterStart? placeholderText cs with
  | some rest => some (.literal ⟨.placeholder, placeholderText⟩, rest)
  | none =>
    match cs with
    | [] => none
    | c :: r =>
      match bracket? c with
      | some t => some (t, r)
      | none => leaf? cs

/-- The tokens of the attribute that a documenting comment stands for. -/
def docTokens (d : DocComment) : List Token :=
  [.punct '#' false] ++ (if d.inner then [.punct '!' false] else []) ++
    [.opening .bracket, .ident (.plain "doc"), .punct '=' false,
      .literal ⟨.string, quoteLiteral d.text⟩, .closing .bracket]

/-- One step of lexing: a blank or comment gives no token, a documenting comment several. -/
def step? (cs : List Char) : Option (List Token × List Char) :=
  match afterTrivia? cs with
  | some r => some ([], r)
  | none =>
    match docComment? cs with
    | some (d, r) => some (docTokens d, r)
    | none =>
      match token? cs with
      | some (t, r) => some ([t], r)
      | none => none

/-- The tokens of a text in at most `fuel` steps. -/
def scanFrom : (fuel : Nat) → List Char → Option (List Token)
  | _, [] => some []
  | 0, _ :: _ => none
  | fuel + 1, c :: r =>
    match step? (c :: r) with
    | some (ts, rest) => (scanFrom fuel rest).map (ts ++ ·)
    | none => none

/-- The byte order mark. -/
def byteOrderMark : Char := Char.ofNat 0xFEFF

/-- The text without a byte order mark at its beginning. -/
def dropMark : List Char → List Char
  | c :: r => if c = byteOrderMark then r else c :: r
  | [] => []

end Lexer

/-- The tokens of a text, a byte order mark at its beginning apart. Each step takes at least one
character, so the length of the text bounds their number. -/
def Token.scan? (cs : List Char) : Option (List Token) :=
  let text := Lexer.dropMark cs
  Lexer.scanFrom text.length text

/-- The token trees of a text. -/
def TokenTree.scan? (cs : List Char) : Option (List TokenTree) :=
  match Token.scan? cs with
  | some ts => TokenTree.nest? ts
  | none => none

end DisplayGen.Source
