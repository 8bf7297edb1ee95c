import DisplayGen.Proofs.Source.Grammar.Type
import DisplayGen.Source.Grammar.Pattern

/-!
# Patterns are parts

A pattern may hold a block in two places: as a constant that a value is compared with, and in the
generic arguments of a path.
-/

namespace DisplayGen.Source.Grammar

open Reader

variable {r : Rules} (h : r.Shaped)

include h

theorem alternatives_yields (leading : Bool) : (alternatives r leading).Yields Tree.IsPart :=
  .bind h.pattern fun first hfirst => .bind (.repeatedly (.skip fun _ => h.pattern)) fun more hmore =>
    .ite (.pure (by simpa [hfirst] using hmore)) (.pure hfirst)

theorem patterns_yields : (patterns r).Yields Tree.IsPart := .skip fun _ => alternatives_yields h _

omit h in
theorem position_yields : position.Yields Tree.IsPart := by
  unfold position
  refine .skip fun ts => ?_
  split
  · exact .ite (.skip fun _ => .pure (by simp)) .reject
  · exact .reject

theorem constBlock_yields : (constBlock r).Yields Tree.IsPart :=
  .skip fun _ => .bind (bodyBlock_yields h) fun b hb => .pure (by simpa [hb.2] using hb.1)

/-! ## Ranges -/

theorem rangeBound_yields : (rangeBound r).Yields Tree.IsPart := by
  refine .branch ?_ (.branch ?_ ?_)
  · exact .bind .literalLeaves fun ts hts => .pure (by simpa using hts)
  · exact .bind (qualifiedPath_yields h true) fun ts hts => .pure (by simpa using hts)
  · exact .bind (constBlock_yields h) fun b hb => .pure (by simpa using hb)

theorem rangeFrom_yields {start : Tree} (hs : start.IsPart) : (rangeFrom r start).Yields Tree.IsPart :=
  .skip fun _ => .branch (.ite (.pure (by simpa using hs)) .reject)
    (.bind (rangeBound_yields h) fun b hb => .pure (by simp [hs, hb]))

theorem rangeTo_yields : (rangeTo r).Yields Tree.IsPart :=
  .skip fun _ => .branch (.ite (.pure (by simp)) .reject)
    (.bind (rangeBound_yields h) fun b hb => .pure (by simpa using hb))

/-! ## Structs and tuples -/

omit h in
theorem isPart_bindingOf {byRef mutable sub : Tree} {i : Ident} (hr : byRef.IsPart) (hm : mutable.IsPart)
    (hs : sub.IsPart) : (bindingOf byRef mutable i sub).IsPart := by
  simp [bindingOf, hr, hm, hs]

theorem structPatternField_yields {attributes : List Tree} (ha : ∀ t ∈ attributes, t.IsPart) :
    (structPatternField r attributes).Yields Tree.IsPart := by
  unfold structPatternField
  extract_lets field
  have hfield : ∀ member p, (∀ t ∈ member, t.IsPart) → p.IsPart → (field member p).IsPart := by
    intro member p hm hp
    simpa [field, hp] using ⟨ha, hm⟩
  refine .skip fun _ => .bind .wordPart fun byRef hr => .bind .wordPart fun mutable hm => .ite ?_ ?_
  · refine .skip fun i => .ite (.pure (hfield _ _ (by simp) (by simp))) (.pure ?_)
    exact hfield _ _ (by simp) (isPart_bindingOf hr hm (by simp))
  · refine .branch (.skip fun i => .branch ?_ (.pure ?_)) ?_
    · exact .bind (patterns_yields h) fun p hp => .pure (hfield _ _ (by simp) hp)
    · exact hfield _ _ (by simp) (isPart_bindingOf (by simp) (by simp) (by simp))
    · exact .bind position_yields fun n hn => .skip fun _ => .bind (patterns_yields h) fun p hp =>
        .pure (hfield _ _ (by simpa using hn) hp)

theorem structPatternFields_yields :
    (structPatternFields r).Yields fun a => (∀ t ∈ a.1, t.IsPart) ∧ ∀ t ∈ a.2, t.IsPart := by
  have hfrom : ∀ fuel, (structPatternFieldsFrom r fuel).Yields
      fun a => (∀ t ∈ a.1, t.IsPart) ∧ ∀ t ∈ a.2, t.IsPart := by
    intro fuel
    induction fuel with
    | zero => exact .reject
    | succ fuel ih =>
      refine .branch (.pure (by simp)) (.bind (outerAttributes_isPart h) fun as has => ?_)
      refine .branch (.pure (by simpa using has)) ?_
      refine .bind (structPatternField_yields h has) fun f hf => ?_
      refine .branch (.pure (by simpa using hf)) (.skip fun _ => .bind ih ?_)
      rintro ⟨fs, rest⟩ ⟨hfs, hrest⟩
      exact .pure ⟨List.forall_mem_cons.2 ⟨hf, hfs⟩, hrest⟩
  exact .fueled hfrom

theorem patternFromPath_yields : (patternFromPath r).Yields Tree.IsPart := by
  refine .bind (qualifiedPath_yields h true) fun parts hparts => .skip fun _ => .ite ?_ ?_
  · refine .skip fun _ => .skip fun _ => .pure ?_
    exact Tree.isPart_form.2 (List.forall_mem_append.2 ⟨hparts, by simp⟩)
  · refine .branch (.bind (.inside (structPatternFields_yields h)) ?_) (.branch ?_ (.branch ?_ ?_))
    · rintro ⟨fields, rest⟩ ⟨hfields, hrest⟩
      exact .pure (by simpa using ⟨hparts, hfields, hrest⟩)
    · exact .bind (.inside (.commas (patterns_yields h))) fun ps hps =>
        .pure (by simpa using ⟨hparts, hps⟩)
    · exact rangeFrom_yields h (Tree.isPart_form.2 hparts)
    · exact .pure (Tree.isPart_form.2 hparts)

theorem identPattern_yields : (identPattern r).Yields Tree.IsPart := by
  unfold identPattern
  refine .bind .wordPart fun byRef hr => .bind .wordPart fun mutable hm => .skip fun _ => ?_
  extract_lets rest
  have hrest : ∀ i, (rest i).Yields Tree.IsPart := fun i =>
    .bind (.partAfter h.pattern) fun sub hs => .pure (isPart_bindingOf hr hm hs)
  exact .ite (.skip hrest) (.skip hrest)

theorem literalOrRange_yields : (literalOrRange r).Yields Tree.IsPart :=
  .skip fun _ => .bind (rangeBound_yields h) fun _ hs =>
    .branch (rangeFrom_yields h hs) (.pure hs)

omit h in
theorem isPart_tuplePatternOf {elements : List Tree} {trailing : Bool}
    (he : ∀ t ∈ elements, t.IsPart) : (tuplePatternOf elements trailing).IsPart := by
  simp only [tuplePatternOf, Tree.isPart_form, List.forall_mem_cons, Tree.isPart_list]
  refine ⟨he, ?_, by simp⟩
  split <;> simp

theorem parenPattern_yields : (parenPattern r).Yields Tree.IsPart := by
  refine .inside (.branch (.pure (isPart_tuplePatternOf (by simp))) ?_)
  refine .bind (patterns_yields h) fun first hfirst => .branch (.ite ?_ ?_) ?_
  · exact .pure (isPart_tuplePatternOf (by simpa using hfirst))
  · exact .pure (by simpa using hfirst)
  · exact .skip fun _ => .bind (.commas (patterns_yields h)) fun more hmore =>
      .pure (isPart_tuplePatternOf (List.forall_mem_cons.2 ⟨hfirst, hmore⟩))

theorem slicePattern_yields : (slicePattern r).Yields Tree.IsPart :=
  .bind (.inside (.commas (.bind (patterns_yields h) fun _ hp => .ite .reject (.pure hp))))
    fun _ hes => .pure (Tree.isPart_form.2 hes)

/-! ## Patterns -/

theorem pattern_yields : (pattern r).Yields Tree.IsPart := by
  refine .branch (patternFromPath_yields h) (.branch (.pure (by simp)) ?_)
  refine .branch (.skip fun _ => .pure (by simp)) (.branch (literalOrRange_yields h) ?_)
  refine .branch (identPattern_yields h) (.branch ?_ ?_)
  · exact .bind .wordPart fun m hm => .bind h.pattern fun p hp => .pure (by simp [hm, hp])
  · exact .branch (parenPattern_yields h) (.branch (slicePattern_yields h)
      (.branch (rangeTo_yields h) .reject))

end DisplayGen.Source.Grammar
