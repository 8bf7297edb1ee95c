import DisplayGen.Proofs.Source.Grammar.Item
import DisplayGen.Source.Grammar.Statement

/-!
# Statements are items or parts

What stands in a block is regular: a statement is an item or a part. The readers of statements move trees
about, and what was a part stays one: a call of a macro is taken out of its expression (`statementOf`), and
the attributes of a statement go to the leftmost operand (`withStatementAttributesFrom`).
-/

namespace DisplayGen.Source

namespace Reader.Yields

variable {α : Type} {p : Reader α} {P : α → Prop}

theorem taken (hp : p.Yields P) : (Reader.taken p).Yields fun a => P a.1 := by
  intro ts a rest h
  unfold Reader.taken at h
  split at h
  · rename_i hread
    cases h
    exact hp _ _ _ hread
  · cases h

end Reader.Yields

namespace Grammar

open Reader

/-! ## Parts of an expression statement -/

section

variable {attributes : List Tree} {e semicolon : Tree}

theorem isPart_bare (he : e.IsPart) : e.bare.IsPart := by
  unfold Tree.bare
  split
  · simp only [Tree.isPart_node_form, List.forall_mem_cons] at he
    exact he.2.1
  · exact he

theorem isPart_attributes (he : e.IsPart) : ∀ t ∈ e.attributes, t.IsPart := by
  unfold Tree.attributes
  split
  · simp only [Tree.isPart_node_form, List.forall_mem_cons] at he
    exact he.1
  · simp

theorem isPart_macroStatementOf {path content : Tree} (ha : ∀ t ∈ attributes, t.IsPart) (hp : path.IsPart)
    (hc : content.IsPart) (hs : semicolon.IsPart) :
    (macroStatementOf attributes path content semicolon).IsPart := by
  simpa [macroStatementOf, hp, hc, hs] using ha

theorem isPart_statementOf (he : e.IsPart) (hs : semicolon.IsPart) : (statementOf e semicolon).IsPart := by
  have hplain : (Tree.form .exprStatement [e, semicolon]).IsPart := by simp [he, hs]
  unfold statementOf
  split
  · rename_i p d ts hbare
    have hcall := isPart_bare he
    rw [hbare] at hcall
    simp only [Tree.isPart_node_form, List.forall_mem_cons] at hcall
    split
    · exact isPart_macroStatementOf (isPart_attributes he) hcall.1 (by simp) hs
    · exact hplain
  · exact hplain

theorem isPart_withStatementAttributesFrom (ha : ∀ t ∈ attributes, t.IsPart) (fuel : Nat) (he : e.IsPart) :
    (withStatementAttributesFrom attributes fuel e).IsPart := by
  induction fuel generalizing e with
  | zero => exact isPart_withAttributes ha he
  | succ fuel ih =>
    unfold withStatementAttributesFrom
    split
    case h_4 => exact isPart_withAttributes ha he
    -- an assignment, a binary operation and a cast pass the attributes on to their first operand
    all_goals
      simp only [Tree.isPart_node_form, Tree.isPart_form, List.forall_mem_cons] at he ⊢
      exact ⟨ih he.1, he.2⟩

end

/-! ## Statements -/

theorem semicolonPart_yields : semicolonPart.Yields Tree.IsPart :=
  .branch (.pure (by simp)) (.pure (by simp))

theorem macroStatement_yields {attributes : List Tree} (ha : ∀ t ∈ attributes, t.IsPart) :
    (macroStatement attributes).Yields Tree.IsPart :=
  .skip fun _ => .bind semicolonPart_yields fun _ hs =>
    .pure (isPart_macroStatementOf ha (by simp) (by simp) hs)

variable {r : Rules} (h : r.Shaped)

include h

theorem letStatement_yields {attributes : List Tree} (ha : ∀ t ∈ attributes, t.IsPart) :
    (letStatement r attributes).Yields Tree.IsPart := by
  unfold letStatement
  refine .skip fun _ => .bind h.pattern fun p hp => .bind (.partAfter (h.type true)) fun t ht => ?_
  refine .skip fun valued => ?_
  extract_lets finish
  have hfinish : ∀ value otherwise, (∀ t ∈ value, t.IsPart) → (∀ t ∈ otherwise, t.IsPart) →
      (finish (value, otherwise)).Yields Tree.IsPart := by
    refine fun value otherwise hvalue hotherwise => .skip fun _ => .pure ?_
    simpa [hp, ht] using ⟨ha, hvalue, hotherwise⟩
  refine .ite (.bind (Yields.taken (h.expr true)) fun e he => .branch ?_ ?_) ?_
  · refine .bind (plainBlock_yields h) fun b hb => .bindPure (hfinish _ _ ?_ ?_)
    · simpa using he
    · simpa using isPart_plainBlockOf hb
  · exact .bindPure (hfinish _ _ (by simpa using he) (by simp))
  · exact .bindPure (hfinish _ _ (by simp) (by simp))

theorem exprStatement_yields {attributes : List Tree} (ha : ∀ t ∈ attributes, t.IsPart) :
    (exprStatement r attributes).Yields fun s => s.1.IsPart := by
  refine .skip fun ts => .bind (statementExprWith_yields h (by simp)) fun e he => ?_
  refine .bind semicolonPart_yields fun semicolon hs => .pure ?_
  exact isPart_statementOf (isPart_withStatementAttributesFrom ha _ he) hs

theorem statement_yields : (statement r).Yields fun s => s.1.Regular := by
  refine .bind (outerAttributes_yields h) fun as has => .skip fun ts => ?_
  have hparts : ∀ t ∈ as, t.IsPart := fun t ht => (has t ht).1
  have hitem : (itemWith r as >>= fun t => pure (t, false)).Yields fun s => s.1.Regular :=
    .bind (itemWith_yields h has) fun t ht => .pure ht.regular
  split
  · exact .bind (macroStatement_yields hparts) fun t ht => .pure ht.regular
  · exact hitem
  · refine .ite (.bind (letStatement_yields h hparts) fun t ht => .pure ht.regular) (.ite hitem ?_)
    exact (exprStatement_yields h hparts).mono fun _ hs => hs.regular

theorem statements_yields : (statements r).Yields fun ts => ∀ t ∈ ts, t.Regular := by
  have hfrom : ∀ fuel, (statementsFrom r fuel).Yields fun ts => ∀ t ∈ ts, t.Regular := by
    intro fuel
    induction fuel with
    | zero => exact .reject
    | succ fuel ih =>
      refine .branch (.pure (by simp)) (.branch (.bind ih fun more hmore => .pure ?_) ?_)
      · have hempty : (Tree.form .emptyStatement []).Regular :=
          (Tree.isPart_form.2 (by simp)).regular
        exact List.forall_mem_cons.2 ⟨hempty, hmore⟩
      · refine .bind (statement_yields h) fun s hs => ?_
        have hrest : (statementsFrom r fuel >>= fun more => pure (s.1 :: more)).Yields
            fun ts => ∀ t ∈ ts, t.Regular :=
          .bind ih fun more hmore => .pure (List.forall_mem_cons.2 ⟨hs, hmore⟩)
        exact .ite (.skip fun _ => hrest) hrest
  exact .fueled hfrom

end Grammar

end DisplayGen.Source
