import DisplayGen.Proofs.Source.Grammar.Expr
import DisplayGen.Source.Grammar.Item

/-!
# Items are structs, modules or parts

A struct item carries its outer attributes in its head, and a module item the items between its
braces; whatever else an item is made of is a part.
-/

namespace DisplayGen.Source.Grammar

open Reader

variable {r : Rules} (h : r.Shaped)

include h

/-! ## Signatures -/

section

variable {attributes : List Tree} (ha : ∀ t ∈ attributes, t.IsPart)

include ha

theorem receiver_yields : (receiver r attributes).Yields Tree.IsPart := by
  unfold receiver
  refine .skip fun reference => ?_
  extract_lets afterLifetime
  have hafter : ∀ l, l.IsPart → (afterLifetime l).Yields Tree.IsPart := by
    refine fun l hl => .bind .wordPart fun m hm => .skip fun _ => ?_
    extract_lets finish
    have hfinish : ∀ type, type.IsPart → (finish type).Yields Tree.IsPart := by
      refine fun type ht => .pure ?_
      simp only [Tree.isPart_form, List.forall_mem_cons, Tree.isPart_list]
      exact ⟨ha, by split <;> simp, hl, hm, ht, by simp⟩
    exact .ite (.bindPure (hfinish _ (by simp))) (.bind (.partAfter (h.type true)) hfinish)
  exact .ite (.bind .lifetimePart hafter) (.bindPure (hafter _ (by simp)))

theorem argument_yields : (argument r attributes).Yields Tree.IsPart := by
  refine .branch (receiver_yields h ha) (.branch ?_ ?_)
  · exact .bind (h.type true) fun t ht => .pure (by simpa [ht] using ha)
  · refine .bind h.pattern fun p hp => .skip fun _ => .branch (.pure (by simpa [hp] using ha)) ?_
    exact .bind (h.type true) fun t ht => .pure (by simpa [hp, ht] using ha)

end

theorem arguments_yields :
    (arguments r).Yields fun as => (∀ t ∈ as.1, t.IsPart) ∧ ∀ t ∈ as.2, t.IsPart := by
  have hfrom : ∀ fuel first, (argumentsFrom r first fuel).Yields fun as =>
      (∀ t ∈ as.1, t.IsPart) ∧ ∀ t ∈ as.2, t.IsPart := by
    intro fuel
    induction fuel with
    | zero => exact fun _ => .reject
    | succ fuel ih =>
      refine fun first => .branch (.pure (by simp)) (.bind (outerAttributes_isPart h) fun as has => ?_)
      refine .branch (.skip fun _ => .pure (by simpa using has)) ?_
      refine .bind (argument_yields h has) fun a ha => .ite (.skip fun _ => .pure (by simpa using ha)) ?_
      refine .ite .reject (.branch (.pure (by simpa using ha)) (.skip fun _ => .bind (ih false) ?_))
      exact fun more hmore => .pure ⟨List.forall_mem_cons.2 ⟨ha, hmore.1⟩, hmore.2⟩
  exact .fueled fun fuel => hfrom fuel true

theorem signature_yields (safe : Bool) : (signature r safe).Yields fun s => s.tree.IsPart := by
  unfold signature
  refine .bind .wordPart fun c hc => .bind .wordPart fun a ha => .bind .wordPart fun u hu => ?_
  extract_lets rest
  have hrest : ∀ marked, (rest marked).Yields fun s => s.tree.IsPart := by
    refine fun marked => .bind abi?_yields fun abi habi => .skip fun _ => .skip fun i => ?_
    refine .bind (genericParams_yields h) fun ps hps => .bind (.inside (arguments_yields h)) ?_
    refine fun args hargs => .bind (returnType_yields h true) fun out hout => ?_
    refine .bind (whereClause_yields h) fun cs hcs => .pure ?_
    simpa [hc, ha, hu, habi, hps, hout, hcs] using hargs
  exact .ite (.skip hrest) (.bindPure (hrest false))

/-! ## Macro calls and `use` declarations -/

section

variable {attributes : List Tree} (ha : ∀ t ∈ attributes, t.IsPart)

include ha

omit h in
theorem macroMember_yields : (macroMember attributes).Yields Tree.IsPart :=
  .skip fun _ => .skip fun _ => .pure (by simpa using ha)

omit h in
theorem macroItem_yields : (macroItem attributes).Yields Tree.IsPart := by
  unfold macroItem
  refine .skip fun p => .skip fun _ => .skip fun _ => ?_
  extract_lets rest
  have hrest : ∀ i, (rest i).Yields Tree.IsPart :=
    fun i => .skip fun _ => .skip fun _ => .pure (by simpa using ha)
  refine .skip fun _ => .ite (.skip fun i => .bindPure (hrest i)) ?_
  exact .ite (.skip fun i => .bindPure (hrest i)) (.bindPure (hrest none))

omit h in
theorem useItem_yields : (useItem r attributes).Yields Tree.IsPart := by
  unfold useItem
  refine .bind visibility_yields fun v hv => .skip fun _ => .skip fun _ => .skip fun t => ?_
  refine .skip fun _ => ?_
  split
  · exact .pure (by simpa [hv] using ha)
  · exact .pure (by simp)

end

/-! ## Structs, enumerations and unions -/

omit h in
theorem isPart_fieldOf {attributes name : List Tree} {visibility type : Tree}
    (ha : ∀ t ∈ attributes, t.IsPart) (hv : visibility.IsPart) (hn : ∀ t ∈ name, t.IsPart)
    (ht : type.IsPart) : (fieldOf attributes visibility name type).IsPart := by
  simpa [fieldOf, hv, ht] using ⟨ha, hn⟩

theorem namedField_yields : (namedField r).Yields fun f => f.2.IsPart := by
  unfold namedField
  refine .bind (outerAttributes_isPart h) fun as has => .bind visibility_yields fun v hv => ?_
  refine .skip fun unnamed => ?_
  extract_lets rest
  have hrest : ∀ i, (rest i).Yields fun f => f.2.IsPart := by
    refine fun i => .skip fun _ => .skip fun _ => .ite (.skip fun _ => .skip fun _ => .pure ?_) ?_
    · exact isPart_fieldOf has hv (by simp) (by simp)
    · exact .bind (h.type true) fun t ht => .pure (isPart_fieldOf has hv (by simp) ht)
  exact .ite (.skip hrest) (.skip hrest)

theorem positionalField_yields : (positionalField r).Yields Tree.IsPart :=
  .bind (outerAttributes_isPart h) fun as has => .bind visibility_yields fun v hv =>
    .bind (h.type true) fun t ht => .pure (isPart_fieldOf has hv (by simp) ht)

theorem namedFields_yields : (namedFields r).Yields fun fs => ∀ f ∈ fs, f.2.IsPart :=
  .inside (.commas (namedField_yields h))

theorem positionalFields_yields : (positionalFields r).Yields fun fs => ∀ f ∈ fs, f.IsPart :=
  .inside (.commas (positionalField_yields h))

theorem structItem_yields {attributes : List Tree} (ha : ∀ t ∈ attributes, t.IsOuterAttribute) :
    (structItem r attributes).Yields Tree.IsRegularItem := by
  unfold structItem
  refine .bind visibility_yields fun v hv => .skip fun _ => .skip fun i => ?_
  refine .bind (genericParams_yields h) fun ps hps => .bind (whereClause?_yields h) fun cs hcs => ?_
  extract_lets declared
  have hdeclared : ∀ f conditions fields, (∀ t ∈ Option.getD conditions [], t.IsPart) →
      (∀ t ∈ fields, t.IsPart) → (declared f conditions fields).IsRegularItem := by
    refine fun f conditions fields hconditions hfields => .struct (attributeHeads_outer ha) ?_
    simpa [hv, hps] using ⟨fun t ht => (ha t ht).1, hconditions, hfields⟩
  refine .skip fun _ => .ite ?_ (.branch ?_ ?_)
  · refine .bind (positionalFields_yields h) fun fs hfs => .bind (whereClause?_yields h) ?_
    exact fun cs' hcs' => .skip fun _ => .pure (hdeclared _ _ _ hcs' hfs)
  · refine .bind (namedFields_yields h) fun fs hfs => .pure (hdeclared _ _ _ hcs ?_)
    exact List.forall_mem_map.2 hfs
  · exact .skip fun _ => .pure (hdeclared _ _ _ hcs (by simp))

theorem variantFields_yields : (variantFields r).Yields Tree.IsPart := by
  unfold variantFields
  refine .branch (.bind (namedFields_yields h) fun fs hfs => .pure ?_) (.branch ?_ (.pure (by simp)))
  · exact Tree.isPart_form.2 (List.forall_mem_map.2 hfs)
  · exact .bind (positionalFields_yields h) fun fs hfs => .pure (Tree.isPart_form.2 hfs)

theorem variant_yields : (variant r).Yields Tree.IsPart := by
  refine .bind (outerAttributes_isPart h) fun as has => .skip fun _ => .skip fun i => ?_
  refine .bind (variantFields_yields h) fun fs hfs => .bind (.partAfter (h.expr true)) fun e he => ?_
  exact .pure (by simpa [hfs, he] using has)

section

variable {attributes : List Tree} (ha : ∀ t ∈ attributes, t.IsPart)

include ha

theorem enumItem_yields : (enumItem r attributes).Yields Tree.IsPart := by
  refine .bind visibility_yields fun v hv => .skip fun _ => .skip fun i => ?_
  refine .bind (genericParams_yields h) fun ps hps => .bind (whereClause_yields h) fun cs hcs => ?_
  refine .bind (.inside (.commas (variant_yields h))) fun vs hvs => .pure ?_
  simpa [hv, hps, hcs] using ⟨ha, hvs⟩

theorem unionItem_yields : (unionItem r attributes).Yields Tree.IsPart := by
  refine .bind visibility_yields fun v hv => .skip fun _ => .skip fun i => ?_
  refine .bind (genericParams_yields h) fun ps hps => .bind (whereClause_yields h) fun cs hcs => ?_
  refine .bind (namedFields_yields h) fun fs hfs => .pure ?_
  simp only [Tree.isPart_named, List.forall_mem_cons, Tree.isPart_list, List.forall_mem_map]
  exact ⟨ha, hv, hps, hcs, hfs, by simp⟩

end

/-! ## Modules and extern crates -/

theorem itemsOf_yields {p : Reader Tree} {P : Tree → Prop} (hp : p.Yields P) :
    (itemsOf r p).Yields fun b => (∀ t ∈ b.1, t.IsPart) ∧ ∀ t ∈ b.2, P t :=
  .bind (innerAttributes_yields h) fun _ has => .bind (.repeatedly hp) fun _ hts => .pure ⟨has, hts⟩

theorem moduleItem_yields {attributes : List Tree} (ha : ∀ t ∈ attributes, t.IsOuterAttribute) :
    (moduleItem r attributes).Yields Tree.IsRegularItem := by
  unfold moduleItem
  refine .bind visibility_plain fun v hv => .bind .wordPart_plain fun u hu => .skip fun _ => ?_
  refine .skip fun _ => ?_
  extract_lets content
  have hcontent : ∀ i, (content i).Yields Tree.IsRegularItem := by
    refine fun i => .branch (.pure (.outlineModule (fun t ht => ⟨(ha t ht).1, (ha t ht).isAttribute⟩) hv hu)) ?_
    refine .bind (.inside (itemsOf_yields h h.item)) fun b hb => .pure ?_
    refine .inlineModule ?_ hv.isPart hu.isPart hb.2
    simpa only [Tree.isPart_list, List.forall_mem_append] using ⟨fun t ht => (ha t ht).1, hb.1⟩
  exact .ite (.skip hcontent) (.skip hcontent)

omit h in
theorem externCrateItem_yields {attributes : List Tree} (ha : ∀ t ∈ attributes, t.IsPart) :
    (externCrateItem attributes).Yields Tree.IsPart := by
  unfold externCrateItem
  refine .bind visibility_yields fun v hv => .skip fun _ => .skip fun _ => .skip fun _ => ?_
  extract_lets afterName
  have hafter : ∀ i, (afterName i).Yields Tree.IsPart := by
    refine fun i => .skip fun _ => ?_
    extract_lets finish bound
    have hfinish : ∀ b, (finish b).Yields Tree.IsPart :=
      fun b => .skip fun _ => .pure (by simpa [hv] using ha)
    have hbound : ∀ b, (bound b).Yields Tree.IsPart := fun b => .bindPure (hfinish (some b))
    exact .ite (.branch (.skip hbound) (.skip hbound)) (.bindPure (hfinish none))
  exact .ite (.skip hafter) (.skip hafter)

/-! ## Types, constants and variables -/

theorem declaredBounds_yields : (declaredBounds r).Yields fun o => ∀ t ∈ o.getD [], t.IsPart :=
  .branch (.bind (.separated (bound_yields h false true)) fun _ hbs => .pure (by simpa using hbs))
    (.pure (by simp))

/-- The trees of a type declaration are parts. -/
structure TypeParts.AreParts (p : TypeParts) : Prop where
  visibility : p.visibilityTree.IsPart
  fallback : p.fallback.IsPart
  generics : p.generics.IsPart
  conditions : p.conditions.IsPart
  bounds : ∀ t ∈ p.bounds.getD [], t.IsPart
  definition : ∀ t ∈ p.definition.toList, t.IsPart

theorem typeDeclaration_yields (fallback : Bool) (place : ConditionsPlace) :
    (typeDeclaration r fallback place).Yields TypeParts.AreParts := by
  unfold typeDeclaration
  refine .bind visibility_yields fun ⟨vis, v⟩ hv => ?_
  dsimp -zeta only at hv ⊢
  extract_lets afterFallback
  have hafter : ∀ f, f.IsPart → (afterFallback f).Yields TypeParts.AreParts := by
    refine fun f hf => .skip fun _ => .skip fun i => .bind (genericParams_yields h) fun ps hps => ?_
    refine .bind (declaredBounds_yields h) fun bs hbs => ?_
    extract_lets afterConditions
    have hconditions : ∀ before, (∀ t ∈ before.getD [], t.IsPart) →
        (afterConditions before).Yields TypeParts.AreParts := by
      refine fun before hbefore => .skip fun _ => ?_
      extract_lets afterType
      have htype : ∀ definition, (∀ t ∈ definition.toList, t.IsPart) →
          (afterType definition).Yields TypeParts.AreParts := by
        intro definition hd
        unfold afterType
        extract_lets finish
        have hfinish : ∀ after, (∀ t ∈ after.getD [], t.IsPart) →
            (finish after).Yields TypeParts.AreParts := by
          refine fun after hafter => .skip fun _ => .pure ⟨hv, hf, hps, ?_, hbs, hd⟩
          cases before with
          | none => simpa using hafter
          | some cs => simpa using hbefore
        exact .ite (.bindPure (hfinish none (by simp))) (.bind (whereClause?_yields h) hfinish)
      refine .ite (.bind (h.type true) fun t ht => ?_) (.bindPure (htype none (by simp)))
      exact .bindPure (htype (some t) (by simpa using ht))
    exact .ite (.bindPure (hconditions none (by simp))) (.bind (whereClause?_yields h) hconditions)
  exact .ite (.bind .wordPart hafter) (.bindPure (hafter _ (by simp)))

/-- The trees of a constant are parts. -/
structure ConstParts.AreParts (c : ConstParts) : Prop where
  type : c.type.IsPart
  value : ∀ t ∈ c.value.toList, t.IsPart

theorem constRest_yields : (constRest r).Yields ConstParts.AreParts := by
  unfold constRest
  refine .skip fun _ => ?_
  extract_lets afterName
  have hafter : ∀ i, (afterName i).Yields ConstParts.AreParts := by
    refine fun i => .skip fun ps => .skip fun _ => .bind (h.type true) fun t ht => .skip fun _ => ?_
    extract_lets finish
    have hfinish : ∀ e, (∀ t ∈ Option.toList e, t.IsPart) → (finish e).Yields ConstParts.AreParts :=
      fun e he => .skip fun cs => .skip fun _ => .pure ⟨ht, he⟩
    refine .ite (.bind (h.expr true) fun e he => ?_) (.bindPure (hfinish none (by simp)))
    exact .bindPure (hfinish (some e) (by simpa using he))
  exact .ite (.skip hafter) (.skip hafter)

section

variable {attributes : List Tree} (ha : ∀ t ∈ attributes, t.IsPart)

include ha

theorem typeItem_yields : (typeItem r attributes).Yields Tree.IsPart := by
  refine .bind (typeDeclaration_yields h false .beforeType) fun p hp => ?_
  split
  · rename_i t _ hdefinition
    have ht := hp.definition
    rw [hdefinition] at ht
    exact .pure (by simpa [hp.visibility, hp.generics, hp.conditions] using ⟨ha, by simpa using ht⟩)
  · exact .pure (by simp)

theorem staticItem_yields : (staticItem r attributes).Yields Tree.IsPart := by
  refine .bind visibility_yields fun v hv => .skip fun _ => .bind .wordPart fun m hm => ?_
  refine .skip fun i => .branch (.skip fun _ => .skip fun _ => .pure (by simp)) (.skip fun _ => ?_)
  refine .bind (h.type true) fun t ht => .branch (.pure (by simp)) (.skip fun _ => ?_)
  refine .bind (h.expr true) fun e he => .skip fun _ => .pure ?_
  simpa [hv, hm, ht, he] using ha

theorem constItem_yields : (constItem r attributes).Yields Tree.IsPart := by
  refine .bind visibility_yields fun v hv => .skip fun _ => .bind (constRest_yields h) fun c hc => ?_
  split
  · rename_i e hvalue
    have he := hc.value
    rw [hvalue] at he
    refine .ite (.pure (by simp)) (.pure ?_)
    simpa [hv, hc.type] using ⟨ha, by simpa using he⟩
  · exact .pure (by simp)

end

/-! ## Functions -/

section

variable {attributes : List Tree} (ha : ∀ t ∈ attributes, t.IsPart)

include ha

theorem functionItem_yields : (functionItem r attributes).Yields Tree.IsPart := by
  refine .bind visibility_yields fun v hv => .bind (signature_yields h false) fun s hs => ?_
  refine .branch (.pure (by simp)) (.bind (bodyBlock_yields h) fun b hb => .pure ?_)
  simp only [Tree.isPart_named, List.forall_mem_cons, Tree.isPart_list, List.forall_mem_append]
  exact ⟨⟨ha, hb.1⟩, hv, hs, hb.2, by simp⟩

/-! ## Foreign declarations -/

theorem foreignFunction_yields : (foreignFunction r attributes).Yields Tree.IsPart := by
  refine .bind visibility_yields fun v hv => .bind (signature_yields h true) fun s hs => ?_
  refine .branch (.skip fun _ => .pure (by simp)) (.skip fun _ => .ite (.pure (by simp)) (.pure ?_))
  simpa [hv, hs] using ha

theorem foreignStatic_yields : (foreignStatic r attributes).Yields Tree.IsPart := by
  unfold foreignStatic
  refine .bind visibility_yields fun v hv => .skip fun unsafety => ?_
  extract_lets rest
  have hrest : ∀ safe, (rest safe).Yields Tree.IsPart := by
    refine fun safe => .skip fun _ => .bind .wordPart fun m hm => .skip fun i => .skip fun _ => ?_
    refine .bind (h.type true) fun t ht => .skip fun valued => ?_
    extract_lets finish
    have hfinish : ∀ u, (finish u).Yields Tree.IsPart :=
      fun _ => .skip fun _ => .ite (.pure (by simp)) (.pure (by simpa [hv, hm, ht] using ha))
    exact .ite (.skip fun _ => hfinish ()) (hfinish ())
  exact .ite (.bindPure (hrest false)) (.skip hrest)

theorem foreignType_yields : (foreignType r attributes).Yields Tree.IsPart := by
  refine .bind (typeDeclaration_yields h false .both) fun p hp => .ite (.pure (by simp)) (.pure ?_)
  simpa [hp.visibility, hp.generics, hp.conditions] using ha

end

theorem foreignMember_yields : (foreignMember r).Yields Tree.IsPart := by
  refine .bind (outerAttributes_isPart h) fun as has => .skip fun ahead => ?_
  split
  · exact .reject
  · refine .ite (foreignFunction_yields h has) (.ite (foreignStatic_yields h has) ?_)
    exact .ite (foreignType_yields h has) (.ite (macroMember_yields has) .reject)

theorem foreignItem_yields {attributes : List Tree} (ha : ∀ t ∈ attributes, t.IsPart) :
    (foreignItem r attributes).Yields Tree.IsPart := by
  refine .bind .wordPart fun u hu => .skip fun _ => .bind abi?_yields fun abi habi => ?_
  refine .bind (.inside (itemsOf_yields h (foreignMember_yields h))) fun b hb => .pure ?_
  simp only [Tree.isPart_foreignBlock, List.forall_mem_cons, Tree.isPart_list, List.forall_mem_append]
  exact ⟨⟨ha, hb.1⟩, hu, habi, hb.2, by simp⟩

/-! ## Traits -/

section

variable {attributes : List Tree} (ha : ∀ t ∈ attributes, t.IsPart)

include ha

theorem traitFunction_yields : (traitFunction r attributes).Yields Tree.IsPart := by
  refine .bind (outerAttributes_isPart h) fun more hmore => ?_
  have hattributes : ∀ t ∈ attributes ++ more, t.IsPart := List.forall_mem_append.2 ⟨ha, hmore⟩
  refine .bind (signature_yields h false) fun s hs => .branch (.pure ?_) ?_
  · simp only [Tree.isPart_form, List.forall_mem_cons, Tree.isPart_list]
    exact ⟨hattributes, hs, by simp, by simp⟩
  · refine .bind (bodyBlock_yields h) fun b hb => .pure ?_
    simp only [Tree.isPart_form, List.forall_mem_cons, Tree.isPart_list]
    exact ⟨List.forall_mem_append.2 ⟨hattributes, hb.1⟩, hs, by simpa using hb.2, by simp⟩

theorem traitConst_yields : (traitConst r attributes).Yields Tree.IsPart := by
  refine .skip fun _ => .bind (constRest_yields h) fun c hc => .ite (.pure (by simp)) (.pure ?_)
  simpa [hc.type] using ⟨ha, by simpa using hc.value⟩

theorem traitType_yields : (traitType r attributes).Yields Tree.IsPart := by
  refine .bind (typeDeclaration_yields h false .afterType) fun p hp => .ite (.pure ?_) ?_
  · simp only [Tree.isPart_form, List.forall_mem_cons, Tree.isPart_list]
    exact ⟨ha, by simp, hp.generics, hp.conditions, hp.bounds, hp.definition, by simp⟩
  · exact .pure (by simp)

end

theorem traitMember_yields : (traitMember r).Yields Tree.IsPart := by
  unfold traitMember
  refine .bind (outerAttributes_isPart h) fun as has => .skip fun v => .skip fun fallback => ?_
  extract_lets plain finish
  refine .skip fun ts => ?_
  have hfinish : ∀ t, t.IsPart → (finish t).Yields Tree.IsPart :=
    fun t ht => .ite (.pure ht) (.pure (by simp))
  refine .ite (.bind (traitFunction_yields h has) hfinish) ?_
  refine .ite (.bind (traitConst_yields h has) hfinish) ?_
  refine .ite (.bind (traitType_yields h has) hfinish) ?_
  exact .ite (.bind (macroMember_yields has) hfinish) (.bind .reject hfinish)

section

variable {attributes : List Tree} (ha : ∀ t ∈ attributes, t.IsPart)

include ha

theorem traitRest_yields {v u a ps : Tree} (i : Ident) (hv : v.IsPart) (hu : u.IsPart) (hauto : a.IsPart)
    (hps : ps.IsPart) : (traitRest r attributes v u a i ps).Yields Tree.IsPart := by
  unfold traitRest
  extract_lets stop rest
  refine .skip fun _ => ?_
  have hrest : ∀ bounds, (∀ t ∈ bounds, t.IsPart) → (rest bounds).Yields Tree.IsPart := by
    refine fun bs hbs => .bind (whereClause_yields h) fun cs hcs => ?_
    refine .bind (.inside (itemsOf_yields h (traitMember_yields h))) fun b hb => .pure ?_
    simp only [Tree.isPart_named, List.forall_mem_cons, Tree.isPart_list, List.forall_mem_append]
    exact ⟨⟨ha, hb.1⟩, hv, hu, hauto, hps, hcs, hbs, hb.2, by simp⟩
  exact .ite (.bind (.separated (bound_yields h false true)) hrest) (.bindPure (hrest [] (by simp)))

theorem traitItem_yields : (traitItem r attributes).Yields Tree.IsPart := by
  refine .bind visibility_yields fun v hv => .skip fun _ => .skip fun i => ?_
  refine .bind (genericParams_yields h) fun ps hps => .branch ?_ (.skip fun _ => ?_)
  · exact traitRest_yields h ha i hv (by simp) (by simp) hps
  · refine .bind (.separated (bound_yields h false false)) fun bs hbs => ?_
    refine .bind (whereClause_yields h) fun cs hcs => .skip fun _ => .pure ?_
    simp only [Tree.isPart_named, List.forall_mem_cons, Tree.isPart_list]
    exact ⟨ha, hv, hps, hcs, hbs, by simp⟩

theorem qualifiedTraitItem_yields : (qualifiedTraitItem r attributes).Yields Tree.IsPart := by
  refine .bind visibility_yields fun v hv => .bind .wordPart fun u hu => .bind .wordPart fun a ha' => ?_
  refine .skip fun _ => .skip fun i => .bind (genericParams_yields h) fun ps hps => ?_
  exact traitRest_yields h ha i hv hu ha' hps

/-! ## Implementations -/

theorem implFunction_yields : (implFunction r attributes).Yields Tree.IsPart := by
  refine .bind visibility_yields fun v hv => .bind .wordPart fun f hf => ?_
  refine .bind (signature_yields h false) fun s hs => .branch (.pure (by simp)) ?_
  refine .bind (bodyBlock_yields h) fun b hb => .pure ?_
  simp only [Tree.isPart_form, List.forall_mem_cons, Tree.isPart_list, List.forall_mem_append]
  exact ⟨⟨ha, hb.1⟩, hv, hf, hs, hb.2, by simp⟩

theorem implConst_yields (fallback : Bool) : (implConst r fallback attributes).Yields Tree.IsPart := by
  unfold implConst
  refine .bind visibility_yields fun ⟨vis, v⟩ hv => ?_
  dsimp -zeta only at hv ⊢
  extract_lets rest
  have hrest : ∀ f, f.IsPart → (rest f).Yields Tree.IsPart := by
    refine fun f hf => .skip fun _ => .bind (constRest_yields h) fun c hc => ?_
    split
    · rename_i e hvalue
      have he := hc.value
      rw [hvalue] at he
      refine .ite (.pure (by simp)) (.pure ?_)
      simpa [hv, hf, hc.type] using ⟨ha, by simpa using he⟩
    · exact .pure (by simp)
  exact .ite (.bind .wordPart hrest) (.bindPure (hrest _ (by simp)))

theorem implType_yields : (implType r attributes).Yields Tree.IsPart := by
  refine .bind (typeDeclaration_yields h true .afterType) fun p hp => ?_
  split
  · rename_i t _ hdefinition
    have ht := hp.definition
    rw [hdefinition] at ht
    refine .pure ?_
    simpa [hp.visibility, hp.fallback, hp.generics, hp.conditions] using ⟨ha, by simpa using ht⟩
  · exact .pure (by simp)

end

theorem implMember_yields : (implMember r).Yields Tree.IsPart := by
  refine .bind (outerAttributes_isPart h) fun as has => .skip fun ahead => ?_
  split
  · exact .reject
  · refine .ite (implFunction_yields h has) (.ite (implConst_yields h has _) ?_)
    exact .ite (implType_yields h has) (.ite (macroMember_yields has) .reject)

theorem implItem_yields {attributes : List Tree} (ha : ∀ t ∈ attributes, t.IsPart) :
    (implItem r attributes).Yields Tree.IsPart := by
  unfold implItem
  refine .skip fun ⟨vis, _⟩ => ?_
  dsimp -zeta only
  refine .bind .wordPart fun f hf => .bind .wordPart fun u hu => .skip fun _ => ?_
  extract_lets afterGenerics
  have hgenerics : ∀ ps, ps.IsPart → (afterGenerics ps).Yields Tree.IsPart := by
    refine fun ps hps => .skip fun constant => ?_
    extract_lets afterSign afterConst
    have hsign : ∀ negative, (afterSign negative).Yields Tree.IsPart := by
      refine fun negative => .bind (h.type true) fun first hfirst => .skip fun ofTrait => ?_
      extract_lets finish afterCheck
      have hfinish : ∀ second?, (∀ t ∈ Option.toList second?, t.IsPart) →
          (finish second?).Yields Tree.IsPart := by
        refine fun second? hsecond => .bind (whereClause_yields h) fun cs hcs => ?_
        refine .bind (.inside (itemsOf_yields h (implMember_yields h))) fun b hb => ?_
        extract_lets declared
        have hdeclared : ∀ ofTrait type, (∀ t ∈ ofTrait, t.IsPart) → type.IsPart →
            (declared ofTrait type).IsPart := by
          intro ofTrait type ho ht
          simp only [declared, Tree.isPart_implementation, List.forall_mem_cons,
            Tree.isPart_list, List.forall_mem_append]
          exact ⟨⟨ha, hb.1⟩, hf, hu, hps, hcs, by split <;> simp, ho, ht, hb.2, by simp⟩
        refine .ite (.pure (by simp)) ?_
        split
        · exact .pure (hdeclared _ _ (by simp) hfirst)
        · exact .pure (hdeclared _ _ (by simpa using hfirst) (by simpa using hsecond))
        · exact .pure (by simp)
      have hcheck : ∀ u, (afterCheck u).Yields Tree.IsPart := by
        refine fun _ => .ite (.bind (h.type true) fun t ht => ?_) (.bindPure (hfinish none (by simp)))
        exact .bindPure (hfinish (some t) (by simpa using ht))
      exact .ite (.skip hcheck) (hcheck ())
    have hconst : ∀ u, (afterConst u).Yields Tree.IsPart :=
      fun _ => .skip fun _ => .ite (.skip hsign) (.bindPure (hsign false))
    exact .ite (.skip fun _ => .skip hconst) (hconst ())
  refine .skip fun _ => .ite (.bind (genericParams_yields h) hgenerics) ?_
  exact .bindPure (hgenerics _ (by simp))

/-! ## Any item -/

omit h in
theorem macroDefinition_yields : macroDefinition.Yields Tree.IsPart := by
  refine .skip fun _ => .skip fun _ => .skip fun _ => .skip fun _ => ?_
  have hfinish : Yields (anyGroup >>= fun g =>
      if g.1 = .brace then pure Tree.uninterpreted else reject) Tree.IsPart :=
    .skip fun _ => .ite (.pure (by simp)) .reject
  exact .ite (.skip fun _ => hfinish) hfinish

theorem externItem_yields {attributes : List Tree} (ha : ∀ t ∈ attributes, t.IsPart)
    (after : List TokenTree) : (externItem r attributes after).Yields Tree.IsPart :=
  .ite (externCrateItem_yields ha) (.ite (foreignItem_yields h ha)
    (.ite (foreignItem_yields h ha) .reject))

omit h in
theorem isPart_item {p : Reader Tree} (hp : p.Yields Tree.IsPart) : p.Yields Tree.IsRegularItem :=
  hp.mono fun _ => .part

theorem unsafeItem_yields {attributes : List Tree} (ha : ∀ t ∈ attributes, t.IsOuterAttribute)
    (after : List TokenTree) : (unsafeItem r attributes after).Yields Tree.IsRegularItem := by
  have hparts : ∀ t ∈ attributes, t.IsPart := fun t ht => (ha t ht).1
  refine .ite (isPart_item (qualifiedTraitItem_yields h hparts)) (.ite (isPart_item (implItem_yields h hparts)) ?_)
  exact .ite (isPart_item (foreignItem_yields h hparts)) (.ite (moduleItem_yields h ha) .reject)

theorem itemWith_yields {attributes : List Tree} (ha : ∀ t ∈ attributes, t.IsOuterAttribute) :
    (itemWith r attributes).Yields Tree.IsRegularItem := by
  have hparts : ∀ t ∈ attributes, t.IsPart := fun t ht => (ha t ht).1
  refine .skip fun ahead => ?_
  split
  · exact .reject
  · refine .ite (isPart_item (functionItem_yields h hparts)) ?_
    refine .ite (isPart_item (externItem_yields h hparts _)) ?_
    refine .ite (isPart_item (useItem_yields hparts)) ?_
    refine .ite (isPart_item (staticItem_yields h hparts)) ?_
    refine .ite (isPart_item (constItem_yields h hparts)) ?_
    refine .ite (unsafeItem_yields h ha _) ?_
    refine .ite (moduleItem_yields h ha) ?_
    refine .ite (isPart_item (typeItem_yields h hparts)) ?_
    refine .ite (structItem_yields h ha) ?_
    refine .ite (isPart_item (enumItem_yields h hparts)) ?_
    refine .ite (isPart_item (unionItem_yields h hparts)) ?_
    refine .ite (isPart_item (traitItem_yields h hparts)) ?_
    refine .ite (isPart_item (qualifiedTraitItem_yields h hparts)) ?_
    refine .ite (isPart_item (implItem_yields h hparts)) ?_
    refine .ite (isPart_item macroDefinition_yields) ?_
    exact .ite (isPart_item (macroItem_yields hparts)) .reject

theorem item_yields : (item r).Yields Tree.IsRegularItem :=
  .bind (outerAttributes_yields h) fun _ has => itemWith_yields h has

end DisplayGen.Source.Grammar
