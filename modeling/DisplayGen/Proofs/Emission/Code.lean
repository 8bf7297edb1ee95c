import DisplayGen.Proofs.Emission
import DisplayGen.Proofs.Source.Lexer.Quoted
import DisplayGen.Proofs.Source.SimplePath
import DisplayGen.Proofs.Text.Layout

/-!
# The tokens of generated code

`DisplayCode.runs_render`: in each of its layouts the generated code has the same tokens. What may be broken
is lexed piece by piece, with the gaps before the pieces left open (`runs_arguments`); the rest of the text
is fixed but for the type, and is lexed by computation.
-/

namespace DisplayGen

open Source Source.Lexer
open Text (Piece Spread IsGap)

namespace Source.Lexer

open Text (isIdentStart isIdentContinue)

variable {c d : Char} {r gap cs rest rest' : List Char} {ts : List Token}

/-! ## Gaps and punctuation -/

theorem Runs.behindGap (hgap : IsGap gap) (h : Runs cs ts rest') : Runs (gap ++ cs) ts rest' := by
  induction gap with
  | nil => exact h
  | cons c gap ih =>
    have hrest := ih fun d hd => hgap d (List.mem_cons_of_mem c hd)
    rcases hgap c (List.mem_cons_self ..) with rfl | rfl
    · exact .trivia rfl hrest
    · exact .trivia rfl hrest

/-- What stands first behind a gap. -/
theorem first_of_gap (hgap : IsGap gap) (h : gap ++ d :: r = c :: rest) : c ∈ [' ', '\n', d] := by
  cases gap with
  | nil =>
    obtain ⟨rfl, -⟩ := List.cons.inj h
    simp
  | cons e gap =>
    obtain ⟨rfl, -⟩ := List.cons.inj h
    rcases hgap e (List.mem_cons_self ..) with rfl | rfl
    · simp
    · simp

theorem endsWord_gap (hgap : IsGap gap)
    (hd : isIdentContinue d = false ∧ d ∉ ['\"', '\'', '#'] := by decide) (r : List Char) :
    EndsWord (gap ++ d :: r) := by
  intro c rest h
  have hc := first_of_gap hgap h
  simp only [List.mem_cons, List.not_mem_nil, or_false] at hc
  rcases hc with rfl | rfl | rfl
  · decide
  · decide
  · exact hd

/-- What follows a round bracket does not make it that of a placeholder. -/
theorem step?_paren (hr : ∀ c r', r = c :: r' → c ≠ '/') :
    step? ('(' :: r) = some ([.opening .paren], r) := by
  have hplaceholder : Text.afterStart? placeholderText ('(' :: r) = none := by
    cases r with
    | nil => rfl
    | cons c r =>
      have hc := hr c r rfl
      unfold placeholderText
      simp [Text.afterStart?, hc.symm]
  have htoken : token? ('(' :: r) = some (.opening .paren, r) := by
    unfold token?
    rw [hplaceholder]
    rfl
  have htrivia : afterTrivia? ('(' :: r) = none := rfl
  have hdoc : docComment? ('(' :: r) = none := rfl
  unfold step?
  rw [htrivia, hdoc, htoken]

end Source.Lexer

namespace DisplayCode

variable {cs rest : List Char} {ts : List Token} {rest' : List Char}

/-! ## Arguments -/

/-- The word for the own value. -/
def selfWord : Ident := .plain "self"

/-- The tokens of the arguments from the fields on, each with the comma before it. -/
def fieldTokens : List Ident → List Token
  | [] => []
  | i :: is => .punct ',' false :: .ident selfWord :: .punct '.' false :: .ident i :: fieldTokens is

/-- A piece that is set off begins with a gap. -/
theorem punctChar?_spread {p : Piece} {ps : List Piece} (hp : p.spaced = true)
    (h : Spread (p :: ps) cs) (rest : List Char) : punctChar? (cs ++ rest) = none := by
  obtain ⟨gap, after, hgap, hspaced, -, rfl⟩ := h.exists_gap
  obtain ⟨c, gap, rfl⟩ := List.exists_cons_of_ne_nil (hspaced hp)
  rcases hgap c (List.mem_cons_self ..) with rfl | rfl
  · rfl
  · rfl

theorem punctChar?_fieldPieces {i : Ident} {is : List Ident} (h : Spread (fieldPieces (i :: is)) cs)
    (rest : List Char) : punctChar? (cs ++ rest) = none := by
  cases is with
  | nil => exact punctChar?_spread rfl h rest
  | cons j is => exact punctChar?_spread rfl h rest

/-- A field behind a point, with or without a line break before the point. -/
theorem runs_field {i : Ident} {gap gap' : List Char} (hgap : IsGap gap) (hgap' : IsGap gap')
    (hrest : EndsWord rest) (h : Runs rest ts rest') :
    Runs (gap ++ ("self".toList ++ (gap' ++ '.' :: (i.written.toList ++ rest))))
      (.ident selfWord :: .punct '.' false :: .ident i :: ts) rest' := by
  refine .behindGap hgap (.ident selfWord (endsWord_gap hgap' (by decide) _) (.behindGap hgap' ?_))
  exact .token (step?_single (by decide) (punctChar?_written i rest)) (.ident i hrest h)

/-- The tokens of the fields do not depend on where the lines break. -/
theorem runs_fieldPieces {i : Ident} {is : List Ident} (hspread : Spread (fieldPieces (i :: is)) cs)
    (hrest : EndsWord rest) (h : Runs rest ts rest') :
    Runs (cs ++ rest)
      (.ident selfWord :: .punct '.' false :: .ident i :: (fieldTokens is ++ ts)) rest' := by
  have hpoint : ".".toList = ['.'] := rfl
  have hcomma : ",".toList = [','] := rfl
  induction is generalizing i cs with
  | nil =>
    obtain ⟨gap, cs, hgap, -, hfield, rfl⟩ := hspread.exists_gap
    obtain ⟨gap', cs, hgap', -, hnil, rfl⟩ := hfield.exists_gap
    rw [hnil.eq_nil, String.toList_append, hpoint]
    simp only [List.append_assoc, List.append_nil, List.singleton_append]
    exact runs_field hgap hgap' hrest h
  | cons j is ih =>
    obtain ⟨gap, cs, hgap, -, hfield, rfl⟩ := hspread.exists_gap
    obtain ⟨gap', cs, hgap', -, hmore, rfl⟩ := hfield.exists_gap
    have hcommaOnly := punctChar?_fieldPieces hmore rest
    rw [String.toList_append, String.toList_append, hpoint, hcomma]
    simp only [List.append_assoc, List.cons_append, List.nil_append]
    exact runs_field hgap hgap' endsWord_cons (.token (step?_single (by decide) hcommaOnly) (ih hmore))

/-- The format string as a literal. -/
def formatLiteral (c : DisplayCode) : Literal := ⟨.string, Text.quoteLiteral c.format.toList⟩

/-- The pieces of the arguments behind the first one, which is the place to write to. -/
def argumentPieces (c : DisplayCode) : List Piece :=
  ⟨true, if c.fields.isEmpty then c.literal else c.literal ++ ","⟩ :: fieldPieces c.fields

theorem pieces_eq (c : DisplayCode) : c.pieces = ⟨true, "f,"⟩ :: c.argumentPieces := rfl

/-- The tokens of the arguments behind the first one do not depend on where the lines break. -/
theorem runs_arguments {c : DisplayCode} {gap : List Char} (hspread : Spread c.argumentPieces cs)
    (hgap : IsGap gap) (h : Runs (')' :: rest) ts rest') : Runs (cs ++ (gap ++ ')' :: rest))
      (.literal c.formatLiteral :: (fieldTokens c.fields ++ ts)) rest' := by
  have hliteral : c.literal.toList = Text.quoteLiteral c.format.toList := String.toList_ofList
  have hcomma : ",".toList = [','] := rfl
  have hend : EndsWord (gap ++ ')' :: rest) := endsWord_gap hgap (by decide) rest
  have hafter : Runs (gap ++ ')' :: rest) ts rest' := h.behindGap hgap
  obtain ⟨before, cs, hbefore, -, hfields, rfl⟩ := hspread.exists_gap
  dsimp only
  cases hall : c.fields with
  | nil =>
    rw [hall] at hfields
    rw [hfields.eq_nil, List.isEmpty_nil, if_pos rfl, hliteral]
    simp only [List.append_assoc, List.nil_append]
    refine .behindGap hbefore (.token (step?_quoteLiteral _ fun d r hd => ?_) hafter)
    have hmem := first_of_gap hgap hd
    simp only [List.mem_cons, List.not_mem_nil, or_false] at hmem
    rcases hmem with rfl | rfl | rfl
    all_goals decide
  | cons i is =>
    rw [hall] at hfields
    rw [List.isEmpty_cons, if_neg (by decide), String.toList_append, hliteral, hcomma]
    simp only [List.append_assoc, List.singleton_append]
    refine .behindGap hbefore (.token (step?_quoteLiteral _ fun d r hd => ?_) ?_)
    · obtain ⟨rfl, -⟩ := List.cons.inj hd
      decide
    · exact .token (step?_single (by decide) (punctChar?_fieldPieces hfields _))
        (runs_fieldPieces hfields hend hafter)

/-! ## The whole code -/

/-- The path of something in the library's module for formatting. -/
def inFmt (w : String) (h : isSpelling false w = true := by exact Eq.refl true) : List Ident :=
  [.plain "core", .plain "fmt", .plain w h]

/-- The path of the macro that writes. -/
def writePath : List Ident := [.plain "core", .plain "write"]

/-- The quote of a lifetime without a name. -/
theorem step?_anyLifetime (r : List Char) : step? ('\'' :: (wordChars "_" ++ '>' :: r)) =
    some ([.punct '\'' true], wordChars "_" ++ '>' :: r) := by
  have hword : wordChars "_" ++ '>' :: r = '_' :: '>' :: r := rfl
  have hname : (Ident.plain "_").name.toList ++ '>' :: r = '_' :: '>' :: r := rfl
  have hident : ident? ('_' :: '>' :: r) = some (.plain "_", '>' :: r) := by
    refine Eq.trans (b := identOf? (Ident.plain "_").raw ('_' :: '>' :: r)) rfl ?_
    rw [← hname]
    exact identOf?_word endsWord_cons
  have hquote : lifetimeQuote? ('_' :: '>' :: r) = true := by
    unfold lifetimeQuote?
    rw [hident]
    rfl
  have hliteral : literalEnd? ('\'' :: '_' :: '>' :: r) = none := rfl
  have hpunctChar : punctChar? ('\'' :: '_' :: '>' :: r) = some ('\'', '_' :: '>' :: r) := rfl
  have htoken : token? ('\'' :: '_' :: '>' :: r) = some (.punct '\'' true, '_' :: '>' :: r) := by
    refine Eq.trans (b := leaf? ('\'' :: '_' :: '>' :: r)) rfl ?_
    unfold leaf? punct?
    rw [hliteral, hpunctChar]
    dsimp only
    rw [if_pos rfl, hquote, if_pos rfl]
  have htrivia : afterTrivia? ('\'' :: '_' :: '>' :: r) = none := rfl
  have hdoc : docComment? ('\'' :: '_' :: '>' :: r) = none := rfl
  rw [hword]
  unfold step?
  rw [htrivia, hdoc, htoken]

/-- The characters of the function's signature, with what follows it. -/
def signatureChars (rest : List Char) : List Char :=
  wordChars "fn" ++ (' ' :: (wordChars "fmt" ++ ('(' :: '&' :: (wordChars "self" ++ (',' :: ' ' ::
    (wordChars "f" ++ (':' :: ' ' :: '&' :: (wordChars "mut" ++ (' ' :: (segmentChars (inFmt "Formatter") ++
    ('<' :: '\'' :: (wordChars "_" ++ ('>' :: ')' :: ' ' :: '-' :: '>' :: ' ' ::
    (segmentChars (inFmt "Result") ++ (' ' :: '\x7b' :: rest)))))))))))))))

theorem signatureChars_append (rest rest' : List Char) :
    signatureChars rest ++ rest' = signatureChars (rest ++ rest') := by
  simp only [signatureChars, List.append_assoc, List.cons_append]

/-- The tokens of the function's signature, with those of what follows it. -/
def signatureTokens (ts : List Token) : List Token :=
  .ident (.plain "fn") :: .ident (.plain "fmt") :: .opening .paren :: .punct '&' false ::
    .ident selfWord :: .punct ',' false :: .ident (.plain "f") :: .punct ':' false :: .punct '&' false ::
    .ident (.plain "mut") :: (segmentTokens (inFmt "Formatter") ++ (.punct '<' true ::
    .punct '\'' true :: .ident (.plain "_") :: .punct '>' false :: .closing .paren :: .punct '-' true ::
    .punct '>' false :: (segmentTokens (inFmt "Result") ++ (.opening .brace :: ts))))

theorem runs_signature (h : Runs rest ts rest') :
    Runs (signatureChars rest) (signatureTokens ts) rest' := by
  unfold signatureChars signatureTokens
  refine .ident _ endsWord_cons (.trivia rfl (.ident _ endsWord_cons ?_))
  refine .token rfl (.token rfl (.ident _ endsWord_cons (.token rfl (.trivia rfl ?_))))
  refine .ident _ endsWord_cons (.token rfl (.trivia rfl (.token rfl ?_)))
  refine .ident _ endsWord_cons (.trivia rfl (runs_segments _ endsWord_cons ?_))
  refine .token rfl (.token (step?_anyLifetime _) (.ident _ endsWord_cons (.token rfl (.token rfl ?_))))
  refine .trivia rfl (.token rfl (.token rfl (.trivia rfl (runs_segments _ endsWord_cons ?_))))
  exact .trivia rfl (.token rfl h)

/-- The text of the code with the gaps at which it may be broken, cut before and behind each word. -/
def codeChars (type : Ident) (head opening arguments closing : List Char) : List Char :=
  '#' :: '[' :: (wordChars "automatically_derived" ++ (']' :: '\n' :: (wordChars "impl" ++ (' ' ::
    (segmentChars (inFmt "Display") ++ (head ++ (wordChars "for" ++ (' ' :: (type.written.toList ++
    (' ' :: '\x7b' :: '\n' :: ((Text.margin 4).toList ++ signatureChars ('\n' ::
    ((Text.margin 8).toList ++ (segmentChars writePath ++ ('!' :: '(' :: (opening ++ (wordChars "f" ++ (',' ::
    (arguments ++ (closing ++ (')' :: '\n' ::
    ((Text.margin 4).toList ++ ['\x7d', '\n', '\x7d', '\n']))))))))))))))))))))))

/-- The tokens of the code. -/
def tokens (c : DisplayCode) : List Token :=
  .punct '#' false :: .opening .bracket :: .ident (.plain "automatically_derived") ::
    .closing .bracket :: .ident (.plain "impl") :: (segmentTokens (inFmt "Display") ++
    (.ident (.plain "for") :: .ident c.type :: .opening .brace :: signatureTokens (segmentTokens writePath ++
    (.punct '!' false :: .opening .paren :: .ident (.plain "f") :: .punct ',' false ::
    .literal c.formatLiteral :: (fieldTokens c.fields ++ [.closing .paren, .closing .brace, .closing .brace])))))

/-- The code is laid out in one way or another. -/
theorem toList_render (c : DisplayCode) : ∃ head opening arguments closing,
    IsGap head ∧ head ≠ [] ∧ IsGap opening ∧ IsGap closing ∧
      Spread c.argumentPieces arguments ∧
      c.render.toList = codeChars c.type head opening arguments closing := by
  obtain ⟨head, hhead, hne, hheadLines⟩ := Text.spread_inOneOrTwo 0 "impl ::core::fmt::Display"
    ("for " ++ c.type.written ++ " \x7b")
  obtain ⟨opening, arguments, closing, hopening, hspread, hclosing, hcallLines⟩ :=
    Text.spread_bracketed 8 "::core::write!(" ")" ⟨true, "f,"⟩ c.argumentPieces
  refine ⟨head, opening, arguments, closing, hhead, hne, hopening, hclosing, hspread, ?_⟩
  have hderived : ∀ r, "#[automatically_derived]".toList ++ r =
      '#' :: '[' :: (wordChars "automatically_derived" ++ ']' :: r) := fun _ => rfl
  have himpl : ∀ r, "impl ::core::fmt::Display".toList ++ r =
      wordChars "impl" ++ ' ' :: (segmentChars (inFmt "Display") ++ r) := fun _ => rfl
  have hfor : ∀ r, "for ".toList ++ r = wordChars "for" ++ ' ' :: r := fun _ => rfl
  have hbrace : ∀ r, " \x7b".toList ++ r = ' ' :: '\x7b' :: r := fun _ => rfl
  have hfn : ∀ r, "fn fmt(&self, f: &mut ::core::fmt::Formatter<'_>) -> ::core::fmt::Result \x7b".toList ++
      r = signatureChars r := fun _ => rfl
  have hwrite : ∀ r, "::core::write!(".toList ++ r = segmentChars writePath ++ '!' :: '(' :: r :=
    fun _ => rfl
  have hf : ∀ r, "f,".toList ++ r = wordChars "f" ++ ',' :: r := fun _ => rfl
  have hends : ")".toList = [')'] ∧ "\x7d".toList = ['\x7d'] ∧ (Text.margin 0).toList = [] := ⟨rfl, rfl, rfl⟩
  unfold render lines headLines callLines codeChars
  rw [pieces_eq, Text.unlines_append, Text.unlines_append, Text.unlines_append, Text.unlines_append,
    hheadLines, hcallLines, Text.unlines_singleton, Text.unlines_singleton, Text.unlines_cons, Text.unlines_singleton]
  simp only [String.toList_append, List.append_assoc, hderived, himpl, hfor, hbrace, hfn, hwrite, hf, hends,
    List.cons_append, List.nil_append, signatureChars_append]

theorem runs_render (c : DisplayCode) : Runs c.render.toList c.tokens [] := by
  obtain ⟨head, opening, arguments, closing, hhead, hne, hopening, hclosing, hspread, heq⟩ :=
    c.toList_render
  have hend : ∀ r, EndsWord (head ++ r) := by
    intro r
    obtain ⟨d, head, rfl⟩ := List.exists_cons_of_ne_nil hne
    rcases hhead d (List.mem_cons_self ..) with rfl | rfl
    all_goals exact endsWord_cons
  rw [heq]
  unfold codeChars tokens
  -- `#[automatically_derived]`
  refine .token rfl (.token rfl (.ident _ endsWord_cons (.token rfl (.trivia rfl ?_))))
  -- the head
  refine .ident _ endsWord_cons (.trivia rfl (runs_segments _ (hend _) (.behindGap hhead ?_)))
  refine .ident _ endsWord_cons (.trivia rfl (.ident _ endsWord_cons (.trivia rfl (.token rfl ?_))))
  -- the function, up to the arguments of its call
  refine .trivia rfl (.behindGap (Text.isGap_margin 4) (runs_signature (.trivia rfl ?_)))
  refine .behindGap (Text.isGap_margin 8) (runs_segments _ endsWord_cons (.token rfl ?_))
  refine .token (step?_paren ?_) ?_
  · intro d r hd
    have hmem := first_of_gap (d := 'f') hopening hd
    rintro rfl
    exact absurd hmem (by decide)
  refine .behindGap hopening (.ident _ endsWord_cons ?_)
  refine .token (step?_single (by decide) (punctChar?_spread rfl hspread _)) ?_
  refine runs_arguments hspread hclosing ?_
  -- what closes
  refine .token rfl (.trivia rfl (.behindGap (Text.isGap_margin 4) ?_))
  exact .token rfl (.trivia rfl (.token rfl (.trivia rfl .done)))

end DisplayCode

end DisplayGen
