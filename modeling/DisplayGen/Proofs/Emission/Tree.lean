import DisplayGen.Proofs.Emission.Code
import DisplayGen.Proofs.Source.Reading

/-!
# The item of generated code

`read?_artifactText`: a generated file holds one item, which `implementationTree` writes out. The tokens
between the brackets of its macro call are not read, so the rest of the item is fixed but for the type, and
is read by computation.
-/

namespace DisplayGen

open Source Source.Lexer

namespace DisplayCode

variable {n : Nat} {type : Ident} {arguments : List TokenTree}

/-! ## Token trees -/

/-- The arguments for the fields, each with the comma before it. -/
def fieldTrees : List Ident → List TokenTree
  | [] => []
  | i :: is => .punct ',' false :: .ident selfWord :: .punct '.' false :: .ident i :: fieldTrees is

/-- What stands between the brackets of the call: where to write, the format string, and the fields. -/
def writeArguments (literal : Literal) (fields : List Ident) : List TokenTree :=
  .word "f" :: .punct ',' false :: .literal literal :: fieldTrees fields

/-- The function, with what its call stands on. -/
def functionTokens (arguments : List TokenTree) : List TokenTree :=
  .word "fn" :: .word "fmt" ::
    .group .paren (.punct '&' false :: .word "self" :: .punct ',' false :: .word "f" ::
      .punct ':' false :: .punct '&' false :: .word "mut" :: (segmentTrees (inFmt "Formatter") ++
      [.punct '<' true, .punct '\'' true, .word "_", .punct '>' false])) ::
    .punct '-' true :: .punct '>' false :: (segmentTrees (inFmt "Result") ++
      [.group .brace (segmentTrees writePath ++ [.punct '!' false, .group .paren arguments])])

/-- The implementation behind its attribute. -/
def implementationTokens (type : Ident) (arguments : List TokenTree) : List TokenTree :=
  .word "impl" :: (segmentTrees (inFmt "Display") ++
    [.word "for", .ident type, .group .brace (functionTokens arguments)])

/-- The whole code. -/
def tokenTrees (type : Ident) (arguments : List TokenTree) : List TokenTree :=
  .punct '#' false :: .group .bracket [.word "automatically_derived"] :: implementationTokens type arguments

theorem nestFrom_fields (outer : List TokenTree.OpenGroup) (done : List TokenTree) (is : List Ident)
    (ts : List Token) : TokenTree.nestFrom outer done (fieldTokens is ++ ts) =
      TokenTree.nestFrom outer ((fieldTrees is).reverse ++ done) ts := by
  induction is generalizing done with
  | nil => rfl
  | cons i is ih =>
    refine (ih (.ident i :: .punct '.' false :: .ident selfWord :: .punct ',' false :: done)).trans ?_
    simp [fieldTrees]

theorem nest?_tokens (c : DisplayCode) : TokenTree.nest? c.tokens =
    some (tokenTrees c.type (writeArguments c.formatLiteral c.fields)) := by
  refine Eq.trans (b := TokenTree.nestFrom _ _ (fieldTokens c.fields ++
    [.closing .paren, .closing .brace, .closing .brace])) rfl ?_
  rw [nestFrom_fields]
  refine Eq.trans (b := some (tokenTrees c.type (List.reverse ((fieldTrees c.fields).reverse ++
    [.literal c.formatLiteral, .punct ',' false, .word "f"])))) rfl ?_
  rw [List.reverse_append, List.reverse_reverse]
  rfl

/-! ## Trees -/

/-- A part that is left out. -/
def nothing : Tree := .list []

/-- A path from the root. -/
def rooted (is : List Ident) : Tree := SimplePath.toTree ⟨true, is⟩

/-- The attribute of the implementation. -/
def derivedTree : Tree := .node (.attribute ⟨false, ⟨false, [.plain "automatically_derived"]⟩⟩) []

/-- `fn fmt(&self, f: &mut ::core::fmt::Formatter<'_>) -> ::core::fmt::Result` -/
def signatureTree : Tree :=
  .form .signature [nothing, nothing, nothing, nothing, .ident (.plain "fmt"), nothing, nothing,
    .list [.form .receiver [nothing, .list [.punct '&'], nothing, nothing, nothing],
      .form .typedArgument [nothing, .form .identPattern [nothing, nothing, .ident (.plain "f"), nothing],
        .form .referenceType [nothing, .list [.word "mut"], .form .pathType [.form .path [.punct ':',
          .form .segment [.word "core"], .form .segment [.word "fmt"],
          .form .segment [.word "Formatter", .form .angleArgs [.lifetime (.plain "_")]]]]]]],
    nothing, .list [.form .pathType [rooted (inFmt "Result")]]]

/-- The function: its body is a call of `::core::write!`. -/
def functionTree (arguments : List TokenTree) : Tree :=
  .form .implFunction [nothing, .form .visibility [], nothing, signatureTree,
    .node .block [.form .exprStatement
      [.form .macroExpr [rooted writePath, .tokens .paren arguments], nothing]]]

/-- The implementation of `::core::fmt::Display` for a type, by one function. -/
def implementationTree (type : Ident) (arguments : List TokenTree) : Tree :=
  .node (.implementation true) [.list [derivedTree], nothing, nothing, nothing, nothing, nothing,
    .list [rooted (inFmt "Display")], .form .pathType [.form .path [.form .segment [.ident type]]],
    .list [functionTree arguments]]

/-! ## Reading -/

/-- Whatever stands between the brackets of the call, the function is the one member. -/
theorem members_functionTokens (n : Nat) (arguments : List TokenTree) : Reader.inside .brace
    (Grammar.itemsOf (Grammar.rulesAt (n + 2)) (Grammar.implMember (Grammar.rulesAt (n + 2))))
    [.group .brace (functionTokens arguments)] = some (([], [functionTree arguments]), []) := by
  rfl

theorem type_display (ts : List TokenTree) :
    (Grammar.rulesAt (n + 2)).type true (segmentTrees (inFmt "Display") ++ .word "for" :: ts) =
      some (.form .pathType [rooted (inFmt "Display")], .word "for" :: ts) := by
  rfl

theorem implItem_implementationTokens (h : type.isName = true) :
    Grammar.implItem (Grammar.rulesAt (n + 2)) [derivedTree] (implementationTokens type arguments) =
      some (implementationTree type arguments, []) := by
  have htrait := type_display (n := n) [.ident type, .group .brace (functionTokens arguments)]
  have htype : (Grammar.rulesAt (n + 2)).type true [.ident type, .group .brace (functionTokens arguments)] =
      _ := Grammar.type_name h (Grammar.rulesAt (n + 1)) true (functionTokens arguments)
  have hmembers := members_functionTokens n arguments
  generalize Grammar.rulesAt (n + 2) = r at htrait htype hmembers ⊢
  -- up to the trait, from there to the type, and from there to the members
  refine Eq.trans (b := (r.type true (segmentTrees (inFmt "Display") ++
    [.word "for", .ident type, .group .brace (functionTokens arguments)])).bind _) rfl ?_
  rw [htrait]
  refine Eq.trans (b := (r.type true [.ident type, .group .brace (functionTokens arguments)]).bind _) rfl ?_
  rw [htype]
  refine Eq.trans (b := (Reader.inside .brace (Grammar.itemsOf r (Grammar.implMember r))
    [.group .brace (functionTokens arguments)]).bind _) rfl ?_
  rw [hmembers]
  rfl

theorem item_tokenTrees (h : type.isName = true) :
    Grammar.item (Grammar.rulesAt (n + 2)) (tokenTrees type arguments) =
      some (implementationTree type arguments, []) := by
  have hattributes : Grammar.outerAttributes (Grammar.rulesAt (n + 2)) (tokenTrees type arguments) =
      some ([derivedTree], implementationTokens type arguments) := by rfl
  have hitem : Grammar.itemWith (Grammar.rulesAt (n + 2)) [derivedTree]
      (implementationTokens type arguments) = Grammar.implItem (Grammar.rulesAt (n + 2)) [derivedTree]
      (implementationTokens type arguments) := by rfl
  unfold Grammar.item
  rw [Reader.bind_of_eq hattributes, hitem, implItem_implementationTokens h]

/-- A generated file holds the implementation and nothing else. -/
theorem read?_artifactText (count : Nat) {c : DisplayCode} (h : c.type.isName = true) :
    File.read? (artifactText count c) =
      some ⟨[], [implementationTree c.type (writeArguments c.formatLiteral c.fields)]⟩ := by
  have htoList : (artifactText count c).toList = '/' :: '/' :: ' ' ::
      (("Generation count: " ++ toString count).toList ++ '\n' ::
        (generatedHeader.toList ++ '\n' :: c.render.toList)) := by
    rw [artifactText_eq, countLine_eq]
    simp
  have hruns : Runs ('\n' :: (generatedHeader.toList ++ '\n' :: c.render.toList)) c.tokens [] :=
    .trivia rfl (.trivia rfl (.trivia rfl c.runs_render))
  have htokens : Token.scan? (artifactText count c).toList = some c.tokens := by
    rw [htoList, Token.scan?_comment (newline_not_mem_count count)]
    exact Token.scan?_of_runs (by decide) hruns
  have hscan : TokenTree.scan? (artifactText count c).toList =
      some (tokenTrees c.type (writeArguments c.formatLiteral c.fields)) := by
    unfold TokenTree.scan?
    rw [htokens]
    exact c.nest?_tokens
  have hfirst : File.dropInterpreter (dropMark (artifactText count c).toList) =
      (artifactText count c).toList := by
    rw [htoList]
    rfl
  have hts : tokenTrees c.type (writeArguments c.formatLiteral c.fields) ≠ [] := List.cons_ne_nil _ _
  obtain ⟨n, hn⟩ := Grammar.exists_rulesFor hts
  refine File.read?_of_item hfirst hscan hts rfl ?_
  rw [hn]
  exact item_tokenTrees h

end DisplayCode

end DisplayGen
