import DisplayGen.Source.Printer.Basic

/-!
# Printed macro calls

What stands in the brackets of a macro call is not read, so its tokens are set apart by what they
look like: words by blanks, brackets and points behind a word by nothing. Lines may break at the
blanks, and before a point. The same holds of the rules that define a macro; the patterns of rules
name the tokens that they match as `$name:kind`.
-/

namespace DisplayGen.Source.Printer

open Text Text.Writer

/-- What the last token was, as far as the next one is concerned. -/
inductive Spot where
  | start
  | dollar
  | variable
  | variableColon
  | dollarGroup
  | dollarSeparator
  | pound
  | poundBang
  | point
  | colon
  | colons
  | word
  | wordBang
  | group
  | other
  deriving DecidableEq, Repr

/-- The words that are always set apart from their neighbours. -/
def apartWords : List String :=
  ["as", "async", "await", "box", "break", "const", "continue", "crate", "dyn", "else", "enum",
   "extern", "fn", "for", "if", "impl", "in", "let", "loop", "macro", "match", "mod", "move", "mut",
   "pub", "ref", "return", "static", "struct", "trait", "type", "unsafe", "use", "where", "while",
   "yield"]

/-- Whether a blank stands in front of a token, and the spot after it. -/
def nextSpot (inPattern : Bool) (s : Spot) : TokenTree → Bool × Spot
  | .ident i =>
    if s = .dollar then (false, if inPattern then .variable else .other)
    else if s = .variableColon then (false, .other)
    else if s = .dollarGroup then (false, .dollarSeparator)
    else if apartWords.contains i.written then (true, .other)
    else (s ≠ .point && s ≠ .colons, .word)
  | .literal _ => if s = .dollarGroup then (false, .dollarSeparator) else (s ≠ .point, .word)
  | .group .brace _ => (true, .other)
  | .group d _ =>
    if s = .dollar && d = .paren then (false, .dollarGroup)
    else if (s = .pound || s = .poundBang) && d = .bracket then (false, .other)
    else if s = .word then (false, .group)
    else if s = .wordBang then (false, .other)
    else (true, .group)
  | .punct c joint =>
    if s = .variable && c = ':' && !joint then (false, .variableColon)
    else if s = .dollarGroup then
      if joint then (false, .dollarGroup)
      else if c = '+' || c = '*' || c = '?' then (false, .other)
      else (false, .dollarSeparator)
    else if s = .dollarSeparator && (c = '+' || c = '*') then (false, .other)
    else if s = .pound && c = '!' then (false, .poundBang)
    else if s = .word && c = '!' && !joint then (false, .wordBang)
    else if s = .colon && c = ':' then (false, .colons)
    else if c = ',' || c = ';' then (false, .other)
    else if c = '.' && !inPattern then (s ≠ .word && s ≠ .group, .point)
    else if c = ':' && joint then (s ≠ .word, .colon)
    else if c = '$' then (true, .dollar)
    else if c = '#' then (true, .pound)
    else (true, .other)

/-- Nothing may stand between the token and the next one. -/
def sticks : TokenTree → Bool
  | .punct c joint => joint || c = '$'
  | _ => false

/-- The token is a point. -/
def isPoint : TokenTree → Bool
  | .punct c _ => c = '.'
  | _ => false

/-- The opening bracket. -/
def opening : Delimiter → String
  | .paren => "("
  | .bracket => "["
  | .brace => "\x7b"

/-- The closing bracket. -/
def closing : Delimiter → String
  | .paren => ")"
  | .bracket => "]"
  | .brace => "\x7d"

/-- What may stand between a token and the one before it. -/
def gapBefore (inPattern stuck : Bool) (s : Spot) (t : TokenTree) : Writer Unit :=
  if stuck then pure ()
  else if (nextSpot inPattern s t).1 then space
  else if isPoint t then cut
  else pure ()

mutual

/-- A token; those in brackets are set apart as if they stood alone. -/
def callToken (inPattern : Bool) : TokenTree → Writer Unit
  | .ident i => ident i
  | .literal l => text (String.ofList l.text)
  | .punct c _ => text (String.singleton c)
  | .group d content => do
    let apart : Writer Unit := if d = .brace && !content.isEmpty then space else pure ()
    text (opening d)
    apart
    callTokensFrom inPattern true .start content
    apart
    text (closing d)

/-- Tokens at a spot; nothing may stand before the first one if it is stuck to what is before it. -/
def callTokensFrom (inPattern stuck : Bool) (s : Spot) : List TokenTree → Writer Unit
  | [] => pure ()
  | t :: ts => do
    gapBefore inPattern stuck s t
    callToken inPattern t
    callTokensFrom inPattern (sticks t) (nextSpot inPattern s t).2 ts

end

/-- Tokens that stand alone. -/
def callTokens (inPattern : Bool) (ts : List TokenTree) : Writer Unit :=
  callTokensFrom inPattern true .start ts

/-- The segments of a path without arguments. -/
def segmentNames : List Tree → Writer Unit :=
  joined (pure ()) (text "::") fun
    | .form .segment (i :: _) => name i
    | _ => fail

/-- A path without arguments. -/
def simplePath : Tree → Writer Unit
  | .form .path (.leaf (.punct _ _) :: segments) => do
    text "::"
    segmentNames segments
  | .form .path segments => segmentNames segments
  | _ => fail

/-- Tokens in brackets, on lines of their own: always, or if they do not fit. -/
def indented (edge : Writer Unit) (inPattern : Bool) (content : List TokenTree) : Writer Unit :=
  if content.isEmpty then pure ()
  else
    block step do
      edge
      flow 0 (callTokens inPattern content)
      edge
      outdent

/-! ## Calls -/

/-- What stands in the brackets of a macro call, with the brackets, and the semicolon that follows
unless these are braces. -/
def callContent (d : Delimiter) (content : List TokenTree) (semicolon : Bool) : Writer Unit := do
  match d with
  | .brace =>
    text " \x7b"
    indented newline false content
    text "\x7d"
  | _ =>
    text (opening d)
    indented cut false content
    text (closing d)
    if semicolon then text ";"

/-- A macro call. -/
def call (path : Tree) (d : Delimiter) (content : List TokenTree) (semicolon : Bool) : Writer Unit := do
  simplePath path
  text "!"
  callContent d content semicolon

/-! ## Rules -/

/-- How far the rule of a macro has been printed. -/
inductive RulePart where
  | start
  | pattern
  | equals
  | arrow
  | content
  deriving DecidableEq, Repr

/-- The next token of a rule, and how far the rule has come with it. -/
def ruleToken (done : RulePart) (t : TokenTree) : Writer RulePart :=
  match done, t with
  | .start, .group d content => do
    text (opening d)
    indented cut true content
    text (closing d)
    return .pattern
  | .pattern, .punct '=' true => do
    text " ="
    return .equals
  | .equals, .punct '>' false => do
    text ">"
    return .arrow
  | .arrow, .group _ content => do
    text " \x7b"
    fence
    indented newline false content
    text "\x7d"
    return .content
  | .content, .punct ';' false => do
    text ";"
    newline
    return .start
  | _, _ => do
    fail
    return done

/-- The rules of a macro, and what the last of them lacks. -/
def ruleTokens (done : RulePart) : List TokenTree → Writer Unit
  | [] =>
    match done with
    | .start => pure ()
    | .content => do
      text ";"
      newline
    | _ => newline
  | t :: ts => do ruleTokens (← ruleToken done t) ts

/-- The definition of a macro by rules. -/
def macroRules (i : Ident) (rules : List TokenTree) : Writer Unit := do
  text "macro_rules! "
  ident i
  text " \x7b"
  block step do
    newlineUnlessEnd
    ruleTokens .start rules
    outdent
  text "\x7d"

/-- The path is the one word. -/
def isLoneWord (w : String) : Tree → Bool
  | .form .path [.form .segment [.ident i]] => i.isWord w
  | _ => false

/-- A macro call in the place of an item, which may give a name to what it defines. -/
def namedCall (path : Tree) (i : Option Ident) (d : Delimiter) (content : List TokenTree) : Writer Unit :=
  match i with
  | none => call path d content true
  | some i =>
    if isLoneWord "macro_rules" path then macroRules i content
    else do
      simplePath path
      text "! "
      ident i
      callContent d content true

end DisplayGen.Source.Printer
