import DisplayGen.Marker
import DisplayGen.Proofs.Source.Lexer.Word
import DisplayGen.Proofs.Source.Reading

/-!
# The text of a marker's definition

`read?_definitionText`: with a name in it, the text that defines a marker is a source file, and its one
item is the struct of that name. The text is fixed but for the name, so all of it but the name is lexed
and read by computation, whatever the rules of the grammar are.
-/

namespace DisplayGen

open Source Source.Lexer

namespace Marker

/-! ## Lexing -/

/-- The text that defines a marker, cut before and behind each word. -/
def definitionChars (name : List Char) : List Char :=
  (generatedHeader ++ "\n").toList ++
  ("/// Marks a struct for generated \x60Display\x60 output\n".toList ++
  ('#' :: '[' :: (wordChars "allow" ++
  ('(' :: (wordChars "dead_code" ++
  (')' :: ']' :: '\n' :: '#' :: '[' :: (wordChars "derive" ++
  ('(' :: (wordChars "Debug" ++
  (',' :: ' ' :: (wordChars "Clone" ++
  (',' :: ' ' :: (wordChars "Copy" ++
  (',' :: ' ' :: (wordChars "Default" ++
  (')' :: ']' :: '\n' :: (wordChars "pub" ++
  (' ' :: (wordChars "struct" ++
  (' ' :: (name ++ [';', '\n'])))))))))))))))))))))

theorem toList_definitionText (name : String) :
    (definitionText name).toList = definitionChars name.toList := by
  unfold definitionText
  simp only [String.toList_append, List.append_assoc]
  rfl

/-- The tokens of a marker's definition. -/
def definitionTokens (i : Ident) : List Token :=
  docTokens ⟨false, " Marks a struct for generated \x60Display\x60 output".toList⟩ ++
  [.punct '#' false, .opening .bracket, .ident (.plain "allow"), .opening .paren,
    .ident (.plain "dead_code"), .closing .paren, .closing .bracket,
    .punct '#' false, .opening .bracket, .ident (.plain "derive"), .opening .paren,
    .ident (.plain "Debug"), .punct ',' false, .ident (.plain "Clone"), .punct ',' false,
    .ident (.plain "Copy"), .punct ',' false, .ident (.plain "Default"),
    .closing .paren, .closing .bracket,
    .ident (.plain "pub"), .ident (.plain "struct"), .ident i, .punct ';' false]

theorem runs_definition (i : Ident) :
    Runs (definitionChars i.written.toList) (definitionTokens i) [] := by
  -- the header and the documentation, each with its line break
  refine .trivia rfl (.trivia rfl (.step rfl (.trivia rfl ?_)))
  -- `#[allow(dead_code)]`
  refine .token rfl (.token rfl (.ident _ endsWord_cons ?_))
  refine .token rfl (.ident _ endsWord_cons ?_)
  refine .token rfl (.token rfl (.trivia rfl ?_))
  -- `#[derive(Debug, Clone, Copy, Default)]`
  refine .token rfl (.token rfl (.ident _ endsWord_cons ?_))
  refine .token rfl (.ident _ endsWord_cons ?_)
  refine .token rfl (.trivia rfl (.ident _ endsWord_cons ?_))
  refine .token rfl (.trivia rfl (.ident _ endsWord_cons ?_))
  refine .token rfl (.trivia rfl (.ident _ endsWord_cons ?_))
  refine .token rfl (.token rfl (.trivia rfl ?_))
  -- the declaration
  refine .ident _ endsWord_cons (.trivia rfl (.ident _ endsWord_cons (.trivia rfl ?_)))
  exact .ident _ endsWord_cons (.token rfl (.trivia rfl .done))

/-! ## Reading -/

/-- The attributes of a marker's definition as token trees: its documentation, and two more. -/
def attributeTokens : List TokenTree :=
  [.punct '#' false, .group .bracket [.word "doc", .punct '=' false,
      .literal ⟨.string, Text.quoteLiteral " Marks a struct for generated \x60Display\x60 output".toList⟩],
    .punct '#' false, .group .bracket [.word "allow", .group .paren [.word "dead_code"]],
    .punct '#' false, .group .bracket [.word "derive", .group .paren [.word "Debug", .punct ',' false,
      .word "Clone", .punct ',' false, .word "Copy", .punct ',' false, .word "Default"]]]

/-- The declaration of a marker as token trees. -/
def declarationTokens (i : Ident) : List TokenTree :=
  [.word "pub", .word "struct", .ident i, .punct ';' false]

theorem nest?_definition (i : Ident) :
    TokenTree.nest? (definitionTokens i) = some (attributeTokens ++ declarationTokens i) := rfl

/-- The trees of a marker's attributes. -/
def attributeTrees : List Tree :=
  [.node (.attribute ⟨false, ⟨false, [.plain "doc"]⟩⟩) [.form .literalExpr [.leaf
      (.literal ⟨.string, Text.quoteLiteral " Marks a struct for generated \x60Display\x60 output".toList⟩)]],
    .node (.attribute ⟨false, ⟨false, [.plain "allow"]⟩⟩) [.tokens .paren [.word "dead_code"]],
    .node (.attribute ⟨false, ⟨false, [.plain "derive"]⟩⟩) [.tokens .paren [.word "Debug",
      .punct ',' false, .word "Clone", .punct ',' false, .word "Copy", .punct ',' false,
      .word "Default"]]]

/-- The struct that a marker's definition declares. -/
def structHead (i : Ident) : StructHead :=
  ⟨Grammar.attributeHeads attributeTrees, .everyone, i, .unit⟩

/-- The tree of a marker's struct. -/
def structTree (i : Ident) : Tree :=
  .node (.struct (structHead i))
    [.list attributeTrees, .form .visibility [.word "pub"], .list [], .list [], .list []]

variable {i : Ident}

theorem outerAttributes_definition (r : Rules) (i : Ident) :
    Grammar.outerAttributes r (attributeTokens ++ declarationTokens i) =
      some (attributeTrees, declarationTokens i) := by rfl

theorem structItem_definition (r : Rules) (h : i.isName = true) :
    Grammar.structItem r attributeTrees (declarationTokens i) = some (structTree i, []) := by
  have hname : Reader.name [.ident i, .punct ';' false] = some (i, [.punct ';' false]) := if_pos h
  -- up to the name nothing depends on it
  refine Eq.trans (b := (Reader.name [.ident i, .punct ';' false]).bind _) rfl ?_
  rw [hname]
  rfl

theorem item_definition (r : Rules) (h : i.isName = true) :
    Grammar.item r (attributeTokens ++ declarationTokens i) = some (structTree i, []) := by
  have hitem : Grammar.itemWith r attributeTrees (declarationTokens i) =
      Grammar.structItem r attributeTrees (declarationTokens i) := by rfl
  refine Eq.trans (b := (Grammar.outerAttributes r (attributeTokens ++ declarationTokens i)).bind
    fun p => Grammar.itemWith r p.1 p.2) rfl ?_
  rw [outerAttributes_definition, Option.bind_some, hitem, structItem_definition r h]

/-- The text that defines a marker holds its struct and nothing else. -/
theorem read?_definitionText (h : i.isName = true) :
    File.read? (definitionText i.written) = some ⟨[], [structTree i]⟩ := by
  have htokens : Token.scan? (definitionText i.written).toList = some (definitionTokens i) := by
    rw [toList_definitionText]
    exact Token.scan?_of_runs (by decide) (runs_definition i)
  have hscan : TokenTree.scan? (definitionText i.written).toList =
      some (attributeTokens ++ declarationTokens i) := by
    unfold TokenTree.scan?
    rw [htokens]
    exact nest?_definition i
  have hfirst : File.dropInterpreter (dropMark (definitionText i.written).toList) =
      (definitionText i.written).toList := by
    rw [toList_definitionText]
    rfl
  exact File.read?_of_item hfirst hscan (by simp [attributeTokens]) rfl (item_definition _ h)

end Marker

end DisplayGen
