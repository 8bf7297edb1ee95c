import DisplayGen.Proofs.Source.Grammar.Pattern
import DisplayGen.Source.Grammar.Expr

/-!
# Expressions are parts

Whatever an expression declares stands in one of its blocks. Loops of the readers (operators,
suffixes, arguments) carry the operand that they have so far; it stays a part from round to round.
-/

namespace DisplayGen.Source.Grammar

open Reader

variable {r : Rules} (h : r.Shaped)

include h

/-! ## Operators -/

theorem rangeOf_yields {start : List Tree} (structs : Bool) (hs : ∀ t ∈ start, t.IsPart) :
    (rangeOf r structs start).Yields Tree.IsPart := by
  refine .skip fun o => .skip fun _ => .ite (.pure (by simpa using hs)) ?_
  exact .bind (h.operand structs .range) fun e he => .pure (by simpa [he] using hs)

theorem operatorChain_yields {lhs : Tree} (structs : Bool) (base : Precedence) (hl : lhs.IsPart) :
    (operatorChain r structs base lhs).Yields Tree.IsPart := by
  have hfrom : ∀ fuel lhs, lhs.IsPart →
      (operatorChainFrom r structs base lhs fuel).Yields Tree.IsPart := by
    intro fuel
    induction fuel with
    | zero => exact fun _ _ => .reject
    | succ fuel ih =>
      intro lhs hl
      unfold operatorChainFrom
      refine .ite (.pure hl) (.skip fun ts => ?_)
      split
      · rename_i o p _
        refine .ite (.pure hl) (.ite .reject (.skip fun _ => .bind (h.operand structs p) ?_))
        exact fun rhs hr => ih _ (by simp [hl, hr])
      · refine .skip fun _ => .ite ?_ (.skip fun _ => .ite ?_ (.skip fun _ => .ite ?_ (.pure hl)))
        · refine .skip fun _ => .bind (h.operand structs .assign) fun rhs hr => ?_
          exact ih _ (by simp [hl, hr])
        · exact .bind (rangeOf_yields h structs (by simpa using hl)) fun e he => ih e he
        · refine .skip fun _ => .bind (h.type false) fun t ht => .skip fun _ => ?_
          exact ih _ (by simp [hl, ht])
  exact .fueled fun fuel => hfrom fuel lhs hl

theorem tighter_yields {rhs : Tree} (structs : Bool) (p : Precedence) (hr : rhs.IsPart) :
    Yields (fun ts => tighterFrom r structs p rhs (ts.length + 1) ts) Tree.IsPart := by
  have hfrom : ∀ fuel rhs, rhs.IsPart → (tighterFrom r structs p rhs fuel).Yields Tree.IsPart := by
    intro fuel
    induction fuel with
    | zero => exact fun _ _ => .reject
    | succ fuel ih =>
      intro rhs hr
      refine .skip fun before => .ite ?_ (.pure hr)
      refine .bind (operatorChain_yields h structs _ hr) fun rhs' hr' => .skip fun after => ?_
      exact .ite (.pure hr') (ih rhs' hr')
  exact .fueled fun fuel => hfrom fuel rhs hr

/-! ## Calls, fields and indices -/

theorem callArguments_yields : (callArguments r).Yields fun ts => ∀ t ∈ ts, t.IsPart :=
  .inside (.commas (h.expr true))

section

variable {e : Tree} (he : e.IsPart)

include he

theorem member_yields : (member r e).Yields Tree.IsPart := by
  refine .branch (.pure (by simpa using he)) (.branch (.skip fun i => .branch ?_ (.branch ?_ ?_)) ?_)
  · refine .bind (angleArgs_yields h) fun g hg => .bind (callArguments_yields h) fun as has => ?_
    exact .pure (by simpa [he, hg] using has)
  · exact .bind (callArguments_yields h) fun as has => .pure (by simpa [he] using has)
  · exact .pure (by simpa using he)
  · exact .bind position_yields fun n hn => .pure (by simp [he, hn])

omit h in
/-- A number with points behind a field access names a position at each of them. -/
theorem isPart_positions (ns : List Nat) :
    (ns.foldl (fun t n => .form .fieldAccess [t, positionLeaf n]) e).IsPart := by
  induction ns generalizing e with
  | nil => exact he
  | cons n ns ih => exact ih (by simpa [positionLeaf] using he)

theorem afterPoint_yields : (afterPoint r e).Yields Tree.IsPart := by
  unfold afterPoint
  refine .skip fun ts => ?_
  split
  · refine .ite (.skip fun _ => ?_) (member_yields h he)
    split
    · exact .ite (member_yields h (isPart_positions he _)) (.pure (isPart_positions he _))
    · exact .reject
  · exact member_yields h he

theorem trailing_yields : (trailing r e).Yields Tree.IsPart := by
  have hfrom : ∀ fuel e, e.IsPart → (trailingFrom r e fuel).Yields Tree.IsPart := by
    intro fuel
    induction fuel with
    | zero => exact fun _ _ => .reject
    | succ fuel ih =>
      intro e he
      refine .branch ?_ (.skip fun _ => .ite ?_ (.branch ?_ (.branch ?_ (.pure he))))
      · exact .bind (callArguments_yields h) fun as has => ih _ (by simpa [he] using has)
      · exact .skip fun _ => .bind (afterPoint_yields h he) fun e' he' => ih e' he'
      · exact .bind (.inside (h.expr true)) fun i hi => ih _ (by simp [he, hi])
      · exact ih _ (by simpa using he)
  exact .fueled fun fuel => hfrom fuel e he

end

/-! ## Literals of structs, tuples and arrays -/

theorem fieldValue_yields : (fieldValue r).Yields Tree.IsPart := by
  refine .bind (outerAttributes_isPart h) fun as has => .branch (.skip fun i => ?_) ?_
  · exact .bind (.partAfter (h.expr true)) fun e he => .pure (by simpa [he] using has)
  · refine .bind position_yields fun n hn => .skip fun _ => .bind (h.expr true) fun e he => ?_
    exact .pure (by simpa [hn, he] using has)

theorem fieldValues_yields :
    (fieldValues r).Yields fun a => (∀ t ∈ a.1, t.IsPart) ∧ ∀ t ∈ a.2, t.IsPart := by
  have hfrom : ∀ fuel, (fieldValuesFrom r fuel).Yields
      fun a => (∀ t ∈ a.1, t.IsPart) ∧ ∀ t ∈ a.2, t.IsPart := by
    intro fuel
    induction fuel with
    | zero => exact .reject
    | succ fuel ih =>
      refine .branch (.pure (by simp)) (.branch (.branch (.pure (by simp)) ?_) ?_)
      · exact .bind (h.expr true) fun e he => .pure (by simpa using he)
      · refine .bind (fieldValue_yields h) fun f hf => .branch (.pure (by simpa using hf)) ?_
        refine .skip fun _ => .bind ih ?_
        rintro ⟨fs, rest⟩ ⟨hfs, hrest⟩
        exact .pure ⟨List.forall_mem_cons.2 ⟨hf, hfs⟩, hrest⟩
  exact .fueled hfrom

theorem fromPath_yields (structs : Bool) : (fromPath r structs).Yields Tree.IsPart := by
  refine .bind (qualifiedPath_yields h true) fun parts hparts => .skip fun _ => .ite ?_ ?_
  · refine .skip fun _ => .skip fun _ => .pure ?_
    exact Tree.isPart_form.2 (List.forall_mem_append.2 ⟨hparts, by simp⟩)
  · refine .skip fun _ => .ite (.bind (.inside (fieldValues_yields h)) ?_) ?_
    · rintro ⟨fields, rest⟩ ⟨hfields, hrest⟩
      exact .pure (by simpa using ⟨hparts, hfields, hrest⟩)
    · exact .pure (Tree.isPart_form.2 hparts)

theorem parenExpr_yields : (parenExpr r).Yields Tree.IsPart := by
  refine .inside (.branch (.pure (by simp)) (.bind (h.expr true) fun first hf => ?_))
  refine .branch (.pure (by simpa using hf)) (.skip fun _ => ?_)
  exact .bind (.commas (h.expr true)) fun es hes => .pure (by simpa [hf] using hes)

theorem arrayExpr_yields : (arrayExpr r).Yields Tree.IsPart := by
  refine .inside (.branch (.pure (by simp)) (.bind (h.expr true) fun first hf => ?_))
  refine .branch (.pure (by simpa using hf)) (.branch ?_ (.skip fun _ => ?_))
  · exact .bind (.commas (h.expr true)) fun es hes => .pure (by simpa [hf] using hes)
  · exact .bind (h.expr true) fun e he => .pure (by simp [hf, he])

/-! ## Jumps, conditions and closures -/

theorem breakExpr_yields (structs : Bool) : (breakExpr r structs).Yields Tree.IsPart := by
  unfold breakExpr
  refine .skip fun _ => .bind .lifetimePart fun l hl => .skip fun _ => ?_
  extract_lets rest
  have hrest : ∀ u, (rest u).Yields Tree.IsPart := fun _ =>
    .bind (.part (h.expr true)) fun value hv => .pure (by simp [hl, hv])
  exact .ite (.skip hrest) (hrest ())

theorem jumpExpr_yields (w : String) (f : Form) : (jumpExpr r w f).Yields Tree.IsPart :=
  .skip fun _ => .bind (.part (h.expr true)) fun value hv => .pure (by simpa using hv)

theorem letExpr_yields (structs : Bool) : (letExpr r structs).Yields Tree.IsPart :=
  .skip fun _ => .bind (patterns_yields h) fun p hp => .skip fun _ =>
    .bind (h.operand structs .let) fun e he => .pure (by simp [hp, he])

theorem closureArgument_yields : (closureArgument r).Yields Tree.IsPart :=
  .bind (outerAttributes_isPart h) fun as has => .bind h.pattern fun p hp =>
    .bind (.partAfter (h.type true)) fun t ht => .pure (by simpa [hp, ht] using has)

omit h in
theorem wordsPart_yields (ws : List Ident) : (wordsPart ws).Yields fun ts => ∀ t ∈ ts, t.IsPart := by
  induction ws with
  | nil => exact .pure (by simp)
  | cons w ws ih =>
    refine .skip fun found => .bind ih fun more hm => .pure ?_
    split
    · simpa using hm
    · exact hm

theorem closure_yields (structs : Bool) : (closure r structs).Yields Tree.IsPart := by
  refine .bind (binder?_yields h) fun b hb => .bind (wordsPart_yields _) fun ws hws => .skip fun _ => ?_
  refine .bind (.separated (closureArgument_yields h)) fun as has => .skip fun _ => .branch ?_ ?_
  · refine .bind (h.type true) fun t ht => .bind (plainBlock_yields h) fun body hbody => .pure ?_
    have hblock := isPart_plainBlockOf hbody
    simpa [hb, ht, hblock] using ⟨hws, has⟩
  · exact .bind (h.expr structs) fun e he => .pure (by simpa [hb, he] using ⟨hws, has⟩)

/-! ## Loops and blocks -/

omit h in
theorem label?_yields : label?.Yields Tree.IsPart :=
  .part (.skip fun _ => .skip fun _ => .pure (by simp))

theorem ifExpr_yields : (ifExpr r).Yields Tree.IsPart := by
  have hfrom : ∀ fuel, (ifExprFrom r fuel).Yields Tree.IsPart := by
    intro fuel
    induction fuel with
    | zero => exact .reject
    | succ fuel ih =>
      refine .skip fun _ => .bind (h.expr false) fun c hc => .bind (plainBlock_yields h) fun b hb => ?_
      refine .branch (.branch ?_ ?_) (.pure (by simp [hc, hb]))
      · exact .bind ih fun e he => .pure (by simp [hc, hb, he])
      · refine .bind (plainBlock_yields h) fun b' hb' => .pure ?_
        have hblock := isPart_plainBlockOf hb'
        simp [hc, hb, hblock]
  exact .fueled hfrom

theorem forLoop_yields : (forLoop r).Yields Tree.IsPart := by
  refine .bind label?_yields fun l hl => .skip fun _ => .bind (patterns_yields h) fun p hp => ?_
  refine .skip fun _ => .bind (h.expr false) fun e he => .bind (bodyBlock_yields h) ?_
  exact fun b hb => .pure (by simpa [hl, hp, he, hb.2] using hb.1)

theorem whileExpr_yields : (whileExpr r).Yields Tree.IsPart := by
  refine .bind label?_yields fun l hl => .skip fun _ => .bind (h.expr false) fun c hc => ?_
  exact .bind (bodyBlock_yields h) fun b hb => .pure (by simpa [hl, hc, hb.2] using hb.1)

theorem loopExpr_yields : (loopExpr r).Yields Tree.IsPart :=
  .bind label?_yields fun l hl => .skip fun _ => .bind (bodyBlock_yields h) fun b hb =>
    .pure (by simpa [hl, hb.2] using hb.1)

theorem blockExpr_yields : (blockExpr r).Yields Tree.IsPart :=
  .bind label?_yields fun _ hl => .bind (bodyBlock_yields h) fun _ hb =>
    .pure (isPart_blockOf hb.1 hl hb.2)

theorem labeled_yields : (labeled r).Yields Tree.IsPart := by
  unfold labeled
  refine .skip fun rest? => ?_
  split
  · exact .reject
  · exact .ite (whileExpr_yields h) (.ite (forLoop_yields h)
      (.ite (loopExpr_yields h) (blockExpr_yields h)))

theorem matchArm_yields : (matchArm r).Yields Tree.IsPart := by
  unfold matchArm
  refine .bind (outerAttributes_isPart h) fun as has => .bind (patterns_yields h) fun p hp => ?_
  refine .skip fun _ => ?_
  extract_lets rest
  have hrest : ∀ guard, (∀ t ∈ guard, t.IsPart) → (rest guard).Yields Tree.IsPart := by
    intro guard hg
    refine .skip fun _ => .bind h.statementExpr fun body hbody => .skip fun comma => ?_
    extract_lets finish
    have hfinish : ∀ u, (finish u).Yields Tree.IsPart := fun _ =>
      .pure (by simpa [hp, hbody] using ⟨has, hg⟩)
    exact .ite (.skip hfinish) (hfinish ())
  exact .ite (.bind (h.expr true) fun e he => .bindPure (hrest [e] (by simpa using he)))
    (.bindPure (hrest [] (by simp)))

theorem matchExpr_yields : (matchExpr r).Yields Tree.IsPart := by
  refine .skip fun _ => .bind (h.expr false) fun e he => ?_
  refine .bind (.inside (P := fun a : List Tree × List Tree =>
    (∀ t ∈ a.1, t.IsPart) ∧ ∀ t ∈ a.2, t.IsPart) ?_) ?_
  · exact .bind (innerAttributes_yields h) fun as has =>
      .bind (.repeatedly (matchArm_yields h)) fun arms harms => .pure ⟨has, harms⟩
  · rintro ⟨as, arms⟩ ⟨has, harms⟩
    exact .pure (by simpa [he] using ⟨has, harms⟩)

theorem unsafeBlock_yields : (unsafeBlock r).Yields Tree.IsPart :=
  .skip fun _ => .bind (bodyBlock_yields h) fun b hb => .pure (by simpa [hb.2] using hb.1)

theorem tryBlock_yields : (tryBlock r).Yields Tree.IsPart :=
  .skip fun _ => .bind (plainBlock_yields h) fun b hb => .pure (by simpa using hb)

theorem asyncBlock_yields : (asyncBlock r).Yields Tree.IsPart :=
  .skip fun _ => .bind .wordPart fun m hm => .bind (plainBlock_yields h) fun b hb =>
    .pure (by simp [hm, hb])

/-! ## Expressions -/

theorem atom_yields (structs : Bool) : (atom r structs).Yields Tree.IsPart := by
  refine .branch (.bind .literalLeaves fun ts hts => .pure (by simpa using hts)) ?_
  refine .branch (asyncBlock_yields h) (.branch (tryBlock_yields h) (.branch (closure_yields h structs) ?_))
  refine .branch builtin_yields (.branch (fromPath_yields h structs) ?_)
  refine .branch (parenExpr_yields h) (.branch (breakExpr_yields h structs) ?_)
  refine .branch (.bind .lifetimePart fun l hl => .pure (by simpa using hl)) ?_
  refine .branch (jumpExpr_yields h _ _) (.branch (.skip fun _ => .pure (by simp)) ?_)
  refine .branch (arrayExpr_yields h) (.branch (letExpr_yields h structs) ?_)
  refine .branch (ifExpr_yields h) (.branch (whileExpr_yields h) (.branch (forLoop_yields h) ?_))
  refine .branch (loopExpr_yields h) (.branch (matchExpr_yields h) ?_)
  refine .branch (jumpExpr_yields h _ _) (.branch (unsafeBlock_yields h) ?_)
  refine .branch (constBlock_yields h) (.branch (blockExpr_yields h) ?_)
  refine .branch (rangeOf_yields h structs (by simp)) (.branch (.pure (by simp)) ?_)
  exact .branch (labeled_yields h) .reject

omit h in
theorem isPart_withAttributes {attributes : List Tree} {e : Tree} (ha : ∀ t ∈ attributes, t.IsPart)
    (he : e.IsPart) : (withAttributes attributes e).IsPart := by
  unfold withAttributes
  split
  · exact he
  · simpa [he] using ha

theorem unary_yields (structs : Bool) : (unary r structs).Yields Tree.IsPart := by
  unfold unary
  refine .bind (outerAttributes_isPart h) fun as has => .branch (.branch (.skip fun _ => ?_) ?_) ?_
  · refine .skip fun _ => ?_
    extract_lets rest
    have hrest : ∀ m, m.IsPart → (rest m).Yields Tree.IsPart := fun m hm =>
      .bind (h.unary structs) fun e he => .pure (isPart_withAttributes has (by simp [hm, he]))
    exact .ite (.bindPure (hrest _ Tree.isPart_word)) (.skip fun _ => .bindPure (hrest _ Tree.isPart_word))
  · exact .bind .wordPart fun m hm => .bind (h.unary structs) fun e he =>
      .pure (isPart_withAttributes has (by simp [hm, he]))
  · refine .branch (.skip fun o => .bind (h.unary structs) fun e he => ?_) ?_
    · exact .pure (isPart_withAttributes has (by simpa using he))
    · refine .bind (atom_yields h structs) fun a ha => .bind (trailing_yields h ha) fun e he => ?_
      exact .ite .reject (.pure (isPart_withAttributes has he))

theorem operand_yields (structs : Bool) (p : Precedence) :
    (operand r structs p).Yields Tree.IsPart := by
  refine .ite (.bind (unary_yields h structs) fun e he => operatorChain_yields h structs _ he) ?_
  exact .bind (unary_yields h structs) fun e he => tighter_yields h structs p he

theorem expr_yields (structs : Bool) : (expr r structs).Yields Tree.IsPart :=
  .bind (unary_yields h structs) fun _ he => operatorChain_yields h structs _ he

theorem statementExprWith_yields {attributes : List Tree} (ha : ∀ t ∈ attributes, t.IsPart) :
    (statementExprWith r attributes).Yields Tree.IsPart := by
  unfold statementExprWith
  -- All questions about what follows are asked before the first of them is acted upon.
  refine .skip fun _ => .skip fun _ => .skip fun _ => .skip fun _ => .skip fun _ => ?_
  refine .skip fun _ => .skip fun _ => .skip fun _ => .skip fun _ => .skip fun _ => ?_
  extract_lets rest
  have hrest : ∀ e, e.IsPart → (rest e).Yields Tree.IsPart := by
    refine fun e he => .ite (operatorChain_yields h true _ (isPart_withAttributes ha he)) ?_
    refine .branch (.bind (trailing_yields h he) fun e' he' => ?_) (.pure (isPart_withAttributes ha he))
    exact operatorChain_yields h true _ (isPart_withAttributes ha he')
  refine .ite (.bind (ifExpr_yields h) hrest) (.ite (.bind (whileExpr_yields h) hrest) ?_)
  refine .ite (.bind (forLoop_yields h) hrest) (.ite (.bind (loopExpr_yields h) hrest) ?_)
  refine .ite (.bind (matchExpr_yields h) hrest) (.ite (.bind (tryBlock_yields h) hrest) ?_)
  refine .ite (.bind (unsafeBlock_yields h) hrest) (.ite (.bind (constBlock_yields h) hrest) ?_)
  refine .ite (.bind (blockExpr_yields h) hrest) (.ite (.bind (labeled_yields h) hrest) ?_)
  exact .bind (unary_yields h true) hrest

theorem statementExpr_yields : (statementExpr r).Yields Tree.IsPart :=
  .bind (outerAttributes_isPart h) fun _ has => statementExprWith_yields h has

end DisplayGen.Source.Grammar
