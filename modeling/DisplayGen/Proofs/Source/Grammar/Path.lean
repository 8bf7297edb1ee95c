import DisplayGen.Proofs.Source.Shape
import DisplayGen.Proofs.Source.Yields
import DisplayGen.Source.Grammar.Path

/-!
# Attributes, paths and generics are parts

`Rules.Shaped r`: the readers in `r` make trees of the right shape. From it follows for each reader
of the grammar that is built over `r` what its trees are like; here for attributes, visibilities,
paths, bounds and generic parameters. Blocks are inert whatever stands in them, so statements have to be
regular only.
-/

namespace DisplayGen.Source

/-- The readers make items where items are expected, statements in blocks, and parts elsewhere. -/
structure Rules.Shaped (r : Rules) : Prop where
  expr (structs : Bool) : (r.expr structs).Yields Tree.IsPart
  unary (structs : Bool) : (r.unary structs).Yields Tree.IsPart
  operand (structs : Bool) (p : Precedence) : (r.operand structs p).Yields Tree.IsPart
  statementExpr : r.statementExpr.Yields Tree.IsPart
  type (plus : Bool) : (r.type plus).Yields Tree.IsPart
  bound (captures constants : Bool) : (r.bound captures constants).Yields Tree.IsPart
  genericParam : r.genericParam.Yields Tree.IsPart
  pattern : r.pattern.Yields Tree.IsPart
  statements : r.statements.Yields fun ts => ∀ t ∈ ts, t.Regular
  item : r.item.Yields Tree.IsRegularItem

/-- An attribute that stands in front of what it belongs to. -/
def Tree.IsOuterAttribute (t : Tree) : Prop :=
  t.IsPart ∧ ∃ head children, t = .node (.attribute head) children ∧ head.inner = false

theorem Tree.IsOuterAttribute.isAttribute {t : Tree} (h : t.IsOuterAttribute) : t.IsAttribute := by
  obtain ⟨-, head, children, rfl, -⟩ := h
  exact ⟨head, children, rfl⟩

namespace Reader.Yields

variable {p : Reader Tree} {w o : String} {q : List TokenTree → Bool}

/-! ## Parts that may be left out -/

theorem wordPart_plain {hw : isSpelling false w = true} : (Reader.wordPart w hw).Yields Tree.Plain :=
  branch (pure (by simp)) (pure (by simp))

theorem wordPart {hw : isSpelling false w = true} : (Reader.wordPart w hw).Yields Tree.IsPart :=
  wordPart_plain.mono fun _ => Tree.Plain.isPart

theorem lifetimePart : Reader.lifetimePart.Yields Tree.IsPart :=
  branch (skip fun _ => pure (by simp)) (pure (by simp))

theorem part (hp : p.Yields Tree.IsPart) : (Reader.part q p).Yields Tree.IsPart :=
  branch (bind hp fun t ht => pure (by simpa using ht)) (pure (by simp))

theorem partAfter (hp : p.Yields Tree.IsPart) : (Reader.partAfter o p).Yields Tree.IsPart :=
  branch (bind hp fun t ht => pure (by simpa using ht)) (pure (by simp))

theorem literalLeaves : Reader.literalLeaves.Yields fun ts => ∀ t ∈ ts, t.IsPart :=
  skip fun _ => pure (by simp)

end Reader.Yields

namespace Grammar

open Reader

variable {r : Rules} (h : r.Shaped)

include h

/-! ## Attributes -/

theorem attributeValue_yields : (attributeValue r).Yields Tree.IsPart := by
  unfold attributeValue
  refine .skip fun lone => ?_
  split
  · exact .bind .literalLeaves fun ts hts => .pure (by simpa using hts)
  · exact .branch .reject (h.expr true)

theorem attributeContent_yields (inner : Bool) :
    (attributeContent r inner).Yields fun t =>
      t.IsPart ∧ ∃ head children, t = .node (.attribute head) children ∧ head.inner = inner := by
  unfold attributeContent
  refine .skip fun _ => ?_
  extract_lets content
  have hcontent : ∀ path, (content path).Yields fun t =>
      t.IsPart ∧ ∃ head children, t = .node (.attribute head) children ∧ head.inner = inner := by
    intro path
    refine .branch (.skip fun _ => .pure ?_) (.branch ?_ (.pure ?_))
    · exact ⟨by simp, _, _, rfl, rfl⟩
    · exact .bind (attributeValue_yields h) fun t ht => .pure ⟨by simpa using ht, _, _, rfl, rfl⟩
    · exact ⟨by simp, _, _, rfl, rfl⟩
  exact .ite (.skip hcontent) (.skip hcontent)

theorem outerAttributes_yields :
    (outerAttributes r).Yields fun ts => ∀ t ∈ ts, t.IsOuterAttribute :=
  .repeatedly (.skip fun _ => .inside (attributeContent_yields h false))

theorem outerAttributes_isPart : (outerAttributes r).Yields fun ts => ∀ t ∈ ts, t.IsPart :=
  (outerAttributes_yields h).mono fun _ hts t ht => (hts t ht).1

theorem innerAttributes_yields : (innerAttributes r).Yields fun ts => ∀ t ∈ ts, t.IsPart :=
  .repeatedly (.skip fun _ => .skip fun _ =>
    (Yields.inside (attributeContent_yields h true)).mono fun _ ht => ht.1)

omit h in
theorem attributeHeads_outer {attributes : List Tree} (ha : ∀ t ∈ attributes, t.IsOuterAttribute) :
    ∀ a ∈ attributeHeads attributes, a.inner = false := by
  intro a hmem
  obtain ⟨t, ht, heq⟩ := List.mem_filterMap.1 hmem
  obtain ⟨-, head, children, rfl, hinner⟩ := ha t ht
  cases heq
  exact hinner

omit h in
theorem visibility_plain : visibility.Yields fun v => v.2.Plain := by
  unfold visibility
  refine .branch (.skip fun ts => ?_) (.pure (by simp))
  split
  · exact .skip fun _ => .pure (by simpa using Tree.plain_word)
  · exact .pure (by simpa using Tree.plain_word)
  · exact .reject

omit h in
theorem visibility_yields : visibility.Yields fun v => v.2.IsPart :=
  visibility_plain.mono fun _ => Tree.Plain.isPart

/-! ## Blocks -/

theorem bodyBlock_yields : (bodyBlock r).Yields fun b => (∀ t ∈ b.1, t.IsPart) ∧ b.2.IsPart :=
  .inside (.bind (innerAttributes_yields h) fun _ has => .bind h.statements fun _ hss =>
    .pure ⟨has, Tree.isPart_block.2 hss⟩)

theorem plainBlock_yields : (plainBlock r).Yields Tree.IsPart :=
  .inside (.bind h.statements fun _ hss => .pure (Tree.isPart_block.2 hss))

omit h in
theorem isPart_blockOf {attributes : List Tree} {label block : Tree}
    (ha : ∀ t ∈ attributes, t.IsPart) (hl : label.IsPart) (hb : block.IsPart) :
    (blockOf attributes label block).IsPart := by
  simp [blockOf, hl, hb]
  exact ha

omit h in
theorem isPart_plainBlockOf {block : Tree} (hb : block.IsPart) :
    (blockOf [] (.list []) block).IsPart :=
  isPart_blockOf (by simp) (by simp) hb

/-! ## Paths -/

theorem constArgument_yields : (constArgument r).Yields Tree.IsPart := by
  refine .branch ?_ (.branch (.skip fun i => .pure (by simp)) ?_)
  · exact .bind .literalLeaves fun ts hts => .pure (by simpa using hts)
  · exact .bind (bodyBlock_yields h) fun b hb => .pure (isPart_blockOf hb.1 (by simp) hb.2)

theorem argumentBounds_yields : (argumentBounds r).Yields fun ts => ∀ t ∈ ts, t.IsPart :=
  .linked (h.bound false true)

omit h in
/-- A type that is one segment falls into a name and arguments, which are parts with it. -/
theorem isPart_of_loneSegment? {t name args : Tree} (ht : t.IsPart)
    (hs : loneSegment? t = some (name, args)) : name.IsPart ∧ args.IsPart := by
  unfold loneSegment? at hs
  split at hs
  · cases hs
    simpa using ht
  · cases hs

theorem genericArgument_yields : (genericArgument r).Yields Tree.IsPart := by
  unfold genericArgument
  refine .branch (.skip fun _ => .pure (by simp)) (.branch (constArgument_yields h) ?_)
  refine .bind (h.type true) fun type htype => ?_
  split
  · exact .pure htype
  · rename_i name args hs
    obtain ⟨hn, ha⟩ := isPart_of_loneSegment? htype hs
    refine .branch (.branch ?_ ?_) (.branch ?_ (.pure htype))
    · exact .bind (constArgument_yields h) fun c hc => .pure (by simp [hn, ha, hc])
    · exact .bind (h.type true) fun t ht => .pure (by simp [hn, ha, ht])
    · exact .bind (argumentBounds_yields h) fun bs hbs => .pure (by simpa [hn, ha] using hbs)

theorem angleArgs_yields : (angleArgs r).Yields Tree.IsPart :=
  .skip fun _ => .skip fun _ => .bind (.separated (genericArgument_yields h)) fun as has =>
    .skip fun _ => .pure (by simpa using has)

theorem returnType_yields (plus : Bool) : (returnType r plus).Yields Tree.IsPart :=
  .partAfter (h.type plus)

theorem parenArgs_yields : (parenArgs r).Yields Tree.IsPart :=
  .bind (.inside (.commas (h.type true))) fun ts hts =>
    .bind (returnType_yields h false) fun t ht => .pure (by simpa [ht] using hts)

theorem segment_yields (turbofish : Bool) : (segment r turbofish).Yields Tree.IsPart := by
  unfold segment
  refine .branch (.skip fun i => .pure (by simp)) (.skip fun _ => ?_)
  extract_lets named
  have hnamed : ∀ i, (named i).Yields Tree.IsPart := fun i =>
    .branch (.bind (angleArgs_yields h) fun a ha => .pure (by simp [ha])) (.pure (by simp))
  exact .ite (.skip hnamed) (.skip hnamed)

theorem moreSegments_yields (turbofish : Bool) :
    (moreSegments r turbofish).Yields fun ts => ∀ t ∈ ts, t.IsPart :=
  .repeatedly (.skip fun _ => segment_yields h turbofish)

theorem path_yields (turbofish : Bool) : (path r turbofish).Yields Tree.IsPart := by
  refine .skip fun leading => .bind (segment_yields h turbofish) fun s hs => ?_
  refine .bind (moreSegments_yields h turbofish) fun ss hss => .pure ?_
  simp only [Tree.isPart_form, List.forall_mem_append, List.forall_mem_cons]
  exact ⟨by split <;> simp, hs, hss⟩

theorem qualifiedPath_yields (turbofish : Bool) :
    (qualifiedPath r turbofish).Yields fun ts => ∀ t ∈ ts, t.IsPart := by
  unfold qualifiedPath
  refine .branch (.bind (h.type true) fun type htype => .skip fun _ => ?_) ?_
  · extract_lets rest
    have hrest : ∀ ofTrait, (∀ t ∈ ofTrait, t.IsPart) →
        (rest ofTrait).Yields fun ts => ∀ t ∈ ts, t.IsPart := by
      intro ofTrait ht
      refine .skip fun _ => .skip fun _ => .bind (segment_yields h turbofish) fun s hs => ?_
      refine .bind (.repeatedly (.skip fun _ => segment_yields h turbofish)) fun ss hss => .pure ?_
      simpa [htype, hs] using ⟨ht, hss⟩
    refine .ite ?_ (.bindPure (hrest [] (by simp)))
    exact .bind (path_yields h false) fun p hp => .bindPure (hrest [p] (by simpa using hp))
  · exact .bind (path_yields h turbofish) fun p hp => .pure (by simpa using hp)

omit h in
theorem isPart_withLastArgs {args t : Tree} (ha : args.IsPart) (ht : t.IsPart) :
    (withLastArgs args t).IsPart := by
  unfold withLastArgs
  split
  · rename_i children
    split
    · rename_i c before hrev
      have hchildren : children = before.reverse ++ [.form .segment c] := by
        rw [← List.reverse_reverse children, hrev, List.reverse_cons]
        rfl
      subst hchildren
      simp only [Tree.isPart_node_form, List.forall_mem_append, List.forall_mem_singleton,
        Tree.isPart_form] at ht
      simp only [Tree.isPart_form, List.reverse_cons, List.forall_mem_append,
        List.forall_mem_singleton]
      exact ⟨ht.1, ht.2, ha⟩
    · exact ht
  · exact ht

/-! ## Bounds -/

theorem binder?_yields : (binder? r).Yields Tree.IsPart :=
  .branch (.skip fun _ => .bind (.separated h.genericParam) fun ps hps =>
    .skip fun _ => .pure (by simpa using hps)) (.pure (by simp))

theorem traitBound_yields (constants : Bool) : (traitBound r constants).Yields Tree.IsPart := by
  unfold traitBound
  refine .bind (binder?_yields h) fun before hbefore => .skip fun conditional => ?_
  extract_lets afterConst
  have hconst : ∀ constant, (afterConst constant).Yields Tree.IsPart := by
    intro constant
    unfold afterConst
    extract_lets afterCheck
    have hcheck : ∀ u, (afterCheck u).Yields Tree.IsPart := by
      refine fun _ => .skip fun maybe => ?_
      extract_lets afterBinder
      have hbinder : ∀ binder, binder.IsPart → (afterBinder binder).Yields Tree.IsPart := by
        refine fun binder hb => .bind (path_yields h false) fun p hp => .skip fun _ => ?_
        extract_lets afterPath
        have hpath : ∀ p, p.IsPart → (afterPath p).Yields Tree.IsPart := by
          intro p hp
          unfold afterPath
          extract_lets finish
          have hfinish : ∀ u, (finish u).Yields Tree.IsPart := by
            refine fun _ => .ite (.pure (by simp)) (.pure ?_)
            simp only [Tree.isPart_form, List.forall_mem_cons, Tree.isPart_list]
            exact ⟨by split <;> simp, hb, hp, by simp⟩
          exact .ite (.skip hfinish) (hfinish ())
        refine .ite (.skip fun _ => .bind (parenArgs_yields h) fun as has => ?_) (.bindPure (hpath p hp))
        exact .bindPure (hpath _ (isPart_withLastArgs has hp))
      exact .ite (.bind (binder?_yields h) hbinder) (.bindPure (hbinder before hbefore))
    exact .ite (.skip hcheck) (hcheck ())
  exact .ite (.skip fun _ => .bindPure (hconst true)) (.skip hconst)

omit h in
theorem preciseCapture_yields : preciseCapture.Yields Tree.IsPart := by
  unfold preciseCapture
  refine .skip fun _ => .skip fun _ => ?_
  extract_lets param
  have hparam : param.Yields Tree.IsPart :=
    .branch (.skip fun _ => .pure (by simp))
      (.branch (.skip fun _ => .pure (by simp)) (.skip fun _ => .pure (by simp)))
  exact .bind (.separated hparam) fun ps hps => .skip fun _ => .pure (by simpa using hps)

theorem bound_yields (captures constants : Bool) :
    (bound r captures constants).Yields Tree.IsPart := by
  refine .branch (.skip fun _ => .pure (by simp)) (.branch (.ite preciseCapture_yields .reject) ?_)
  refine .branch (.bind (.inside (traitBound_yields h constants)) fun b hb => ?_)
    (traitBound_yields h constants)
  exact .ite (.pure (by simpa using hb)) (.pure hb)

omit h in
theorem lifetimeBounds_yields {stop : List TokenTree → Bool} :
    (lifetimeBounds stop).Yields fun ts => ∀ t ∈ ts, t.IsPart :=
  .linked (.skip fun _ => .pure (by simp))

/-! ## Generic parameters and conditions -/

section

variable {attributes : List Tree} (ha : ∀ t ∈ attributes, t.IsPart)

include ha

omit h in
theorem lifetimeParam_yields : (lifetimeParam attributes).Yields Tree.IsPart := by
  unfold lifetimeParam
  refine .skip fun l => .skip fun _ => ?_
  extract_lets param
  have hparam : ∀ bounds, (∀ t ∈ bounds, t.IsPart) → (param bounds).Yields Tree.IsPart :=
    fun bounds hbs => .pure (by simpa using ⟨ha, hbs⟩)
  exact .ite (.bind lifetimeBounds_yields hparam) (.bindPure (hparam [] (by simp)))

theorem typeParam_yields : (typeParam r attributes).Yields Tree.IsPart := by
  unfold typeParam
  refine .skip fun i => .skip fun _ => ?_
  extract_lets param
  have hparam : ∀ bounds, (∀ t ∈ bounds, t.IsPart) → (param bounds).Yields Tree.IsPart :=
    fun bounds hbs => .bind (.partAfter (h.type true)) fun t ht =>
      .pure (by simpa [ht] using ⟨ha, hbs⟩)
  exact .ite (.bind (.linked (h.bound false true)) hparam) (.bindPure (hparam [] (by simp)))

theorem constParam_yields : (constParam r attributes).Yields Tree.IsPart := by
  refine .skip fun _ => .skip fun i => .skip fun _ => .bind (h.type true) fun t ht => ?_
  exact .bind (.partAfter (constArgument_yields h)) fun c hc => .pure (by simpa [ht, hc] using ha)

theorem bareGenericParam_yields : (bareGenericParam r attributes).Yields Tree.IsPart :=
  .branch (lifetimeParam_yields ha) (.branch (typeParam_yields h ha) (constParam_yields h ha))

end

theorem genericParam_yields : (genericParam r).Yields Tree.IsPart :=
  .bind (outerAttributes_isPart h) fun _ has => bareGenericParam_yields h has

theorem genericParams?_yields : (genericParams? r).Yields fun o => ∀ t ∈ o.getD [], t.IsPart := by
  unfold genericParams?
  refine .branch ?_ (.pure (by simp))
  extract_lets param
  have hparam : param.Yields Tree.IsPart := .bind (outerAttributes_isPart h) fun as has =>
    .branch (.skip fun _ => .pure (by simpa using has)) (bareGenericParam_yields h has)
  exact .bind (.separated hparam) fun ps hps => .skip fun _ => .pure (by simpa using hps)

theorem genericParams_yields : (genericParams r).Yields Tree.IsPart :=
  .bind (genericParams?_yields h) fun _ hps => .pure (by simpa using hps)

theorem predicate_yields : (predicate r).Yields Tree.IsPart := by
  refine .branch (.skip fun l => .skip fun _ => .bind lifetimeBounds_yields fun bs hbs => ?_) ?_
  · exact .pure (by simpa using hbs)
  · refine .bind (binder?_yields h) fun b hb => .bind (h.type true) fun t ht => .skip fun _ => ?_
    exact .bind (.linked (h.bound false true)) fun bs hbs => .pure (by simpa [hb, ht] using hbs)

theorem whereClause?_yields : (whereClause? r).Yields fun o => ∀ t ∈ o.getD [], t.IsPart :=
  .branch (.skip fun _ => .bind (.linked (predicate_yields h)) fun cs hcs =>
    .pure (by simpa using hcs)) (.pure (by simp))

theorem whereClause_yields : (whereClause r).Yields Tree.IsPart :=
  .bind (whereClause?_yields h) fun _ hcs => .pure (by simpa using hcs)

end Grammar

end DisplayGen.Source
