import DisplayGen.Proofs.Source.Grammar.Path
import DisplayGen.Source.Grammar.Type

/-!
# Types are parts

A type rearranges the trees that it is made of: a type in round brackets may turn out to be the first
of several bounds (`asFirstBound?`), and a `+` among bounds is moved behind them (`objectOf`). What
is taken out of a part is a part.
-/

namespace DisplayGen.Source.Grammar

open Reader

variable {r : Rules} (h : r.Shaped)

include h

/-! ## Bounds of trait objects -/

omit h in
theorem joinedBounds_yields {plus : Bool} {follows : List TokenTree → Bool} {b : Reader Tree}
    (hb : b.Yields Tree.IsPart) : (joinedBounds plus follows b).Yields fun ts => ∀ t ∈ ts, t.IsPart := by
  have hfrom : ∀ fuel, (joinedBoundsFrom plus follows b fuel).Yields fun ts => ∀ t ∈ ts, t.IsPart := by
    intro fuel
    induction fuel with
    | zero => exact .reject
    | succ fuel ih =>
      refine .bind hb fun first hfirst => .branch (.branch ?_ ?_) ?_
      · exact .bind ih fun more hmore => .pure (List.forall_mem_cons.2 ⟨hfirst, hmore⟩)
      · exact .pure (by simpa using hfirst)
      · exact .pure (by simpa using hfirst)
  exact .fueled hfrom

theorem objectBounds_yields (plus : Bool) :
    (objectBounds r plus).Yields fun ts => ∀ t ∈ ts, t.IsPart :=
  .bind (joinedBounds_yields (bound_yields h false false)) fun _ hbs => .ite (.pure hbs) .reject

theorem implBounds_yields (plus : Bool) :
    (implBounds r plus).Yields fun ts => ∀ t ∈ ts, t.IsPart :=
  .bind (joinedBounds_yields (bound_yields h true true)) fun _ hbs => .ite (.pure hbs) .reject

theorem plusBounds_yields : (plusBounds r).Yields fun ts => ∀ t ∈ ts, t.IsPart :=
  .repeatedly (.skip fun _ => bound_yields h false false)

section

variable {bounds dyn : List Tree} {binder p b t : Tree}

omit h in
theorem isPart_bareObject {trailing : Bool} (hbs : ∀ t ∈ bounds, t.IsPart) :
    (bareObject bounds trailing).IsPart := by
  simp only [bareObject, Tree.isPart_form, List.forall_mem_cons, Tree.isPart_list]
  refine ⟨by simp, hbs, ?_, by simp⟩
  split <;> simp

omit h in
theorem isPart_pathBound (hb : binder.IsPart) (hp : p.IsPart) : (pathBound binder p).IsPart := by
  simp [pathBound, hb, hp]

omit h in
theorem isPart_objectOf (hd : ∀ t ∈ dyn, t.IsPart) (hbs : ∀ t ∈ bounds, t.IsPart) :
    (objectOf dyn bounds).IsPart := by
  simp only [objectOf, Tree.isPart_form, List.forall_mem_cons, Tree.isPart_list]
  exact ⟨hd, fun t ht => hbs t (List.mem_filter.1 ht).1,
    fun t ht => hbs t (List.mem_filter.1 ht).1, by simp⟩

omit h in
theorem isPart_of_asFirstBound? (ht : t.IsPart) (hb : asFirstBound? t = some b) : b.IsPart := by
  unfold asFirstBound? at hb
  split at hb
  · cases hb
    simpa using isPart_pathBound (by simp) (by simpa using ht)
  · rename_i b'
    have hb' : b'.IsPart := by simpa using ht
    split at hb
    · cases hb
      simpa using hb'
    · split at hb
      · cases hb
        exact hb'
      · cases hb
  · cases hb

end

/-! ## Function types -/

omit h in
theorem abi?_yields : abi?.Yields Tree.IsPart := by
  refine .branch (.branch ?_ (.pure (by simp))) (.pure (by simp))
  exact .bind .literalLeaves fun ts hts => .pure (by simpa using hts)

theorem functionTypeArgument_yields {attributes : List Tree} (allowSelf : Bool)
    (ha : ∀ t ∈ attributes, t.IsPart) :
    (functionTypeArgument r allowSelf attributes).Yields Tree.IsPart := by
  unfold functionTypeArgument
  extract_lets argument afterSelf
  have hargument : ∀ name t, (∀ t ∈ name, t.IsPart) → t.IsPart → (argument name t).IsPart := by
    intro name t hn ht
    simpa [argument, ht] using ⟨ha, hn⟩
  have hself : ∀ mutSelf, (afterSelf mutSelf).Yields Tree.IsPart := by
    intro mutSelf
    unfold afterSelf
    extract_lets rest
    have hrest : ∀ u, (rest u).Yields Tree.IsPart := by
      refine fun _ => .branch (.skip fun i => .skip fun _ => .skip fun _ => .ite ?_ ?_) (.ite ?_ ?_)
      · exact .skip fun _ => .skip fun _ => .pure (hargument _ _ (by simp) (by simp))
      · exact .bind (h.type true) fun t ht =>
          .ite (.pure (hargument _ _ (by simp) (by simp))) (.pure (hargument _ _ (by simp) ht))
      · exact .skip fun _ => .pure (hargument _ _ (by simp) (by simp))
      · exact .bind (h.type true) fun t ht => .pure (hargument _ _ (by simp) ht)
    exact .ite (.skip hrest) (hrest ())
  exact .ite (.skip hself) (.bindPure (hself false))

omit h in
theorem functionTypeVariadic_yields {attributes : List Tree} (ha : ∀ t ∈ attributes, t.IsPart) :
    (functionTypeVariadic attributes).Yields Tree.IsPart := by
  unfold functionTypeVariadic
  refine .skip fun _ => ?_
  extract_lets rest
  have hrest : ∀ named, (∀ t ∈ named, t.IsPart) → (rest named).Yields Tree.IsPart :=
    fun named hn => .skip fun _ => .skip fun _ => .pure (by simpa using ⟨ha, hn⟩)
  exact .ite (.skip fun i => .skip fun _ => .bindPure (hrest _ (by simp)))
    (.bindPure (hrest [] (by simp)))

theorem functionTypeArguments_yields :
    (functionTypeArguments r).Yields fun a => (∀ t ∈ a.1, t.IsPart) ∧ ∀ t ∈ a.2, t.IsPart := by
  have hfrom : ∀ fuel first, (functionTypeArgumentsFrom r first fuel).Yields
      fun a => (∀ t ∈ a.1, t.IsPart) ∧ ∀ t ∈ a.2, t.IsPart := by
    intro fuel
    induction fuel with
    | zero => exact fun _ => .reject
    | succ fuel ih =>
      refine fun first => .branch (.pure (by simp)) ?_
      refine .bind (outerAttributes_isPart h) fun as has => .branch ?_ ?_
      · exact .bind (functionTypeVariadic_yields has) fun t ht => .pure (by simpa using ht)
      · refine .bind (outerAttributes_isPart h) fun more hmore => ?_
        refine .bind (functionTypeArgument_yields h first
          (List.forall_mem_append.2 ⟨has, hmore⟩)) fun a ha => ?_
        refine .branch (.pure (by simpa using ha)) (.skip fun _ => .bind (ih false) ?_)
        rintro ⟨args, variadic⟩ ⟨hargs, hv⟩
        exact .pure ⟨List.forall_mem_cons.2 ⟨ha, hargs⟩, hv⟩
  exact .fueled fun fuel => hfrom fuel true

theorem functionType_yields {binder : Tree} (hb : binder.IsPart) :
    (functionType r binder).Yields Tree.IsPart := by
  refine .bind .wordPart fun u hu => .bind abi?_yields fun a ha => .skip fun _ => ?_
  refine .bind (.inside (functionTypeArguments_yields h)) ?_
  rintro ⟨args, variadic⟩ ⟨hargs, hv⟩
  exact .bind (returnType_yields h false) fun o ho =>
    .pure (by simpa [hb, hu, ha, ho] using ⟨hargs, hv⟩)

/-! ## Types -/

/-- What a type in round brackets holds is a part, whatever it will turn out to be. -/
def ParenContent.IsPart : ParenContent → Prop
  | .finished t => t.IsPart
  | .object b => b.IsPart
  | .single t => t.IsPart

theorem parenContent_yields : (parenContent r).Yields ParenContent.IsPart := by
  refine .branch (.pure (by simp [ParenContent.IsPart])) (.branch ?_ (.branch ?_ ?_))
  · refine .bind (objectBounds_yields h true) fun bs hbs => .pure ?_
    simpa [ParenContent.IsPart] using isPart_objectOf (by simp) hbs
  · exact .bind (traitBound_yields h false) fun b hb => .pure (by simpa [ParenContent.IsPart] using hb)
  · refine .bind (h.type true) fun first hfirst => .branch ?_ (.pure hfirst)
    refine .bind (.commas (h.type true)) fun more hmore => .pure ?_
    simpa [ParenContent.IsPart, hfirst] using hmore

theorem parenType_yields (plus : Bool) : (parenType r plus).Yields Tree.IsPart := by
  unfold parenType
  refine .bind (.inside (parenContent_yields h)) fun content hc => ?_
  have hobject : ∀ b, b.IsPart →
      (plusBounds r >>= fun bs => pure (bareObject (b :: bs) false)).Yields Tree.IsPart :=
    fun b hb => .bind (plusBounds_yields h) fun bs hbs =>
      .pure (isPart_bareObject (List.forall_mem_cons.2 ⟨hb, hbs⟩))
  split
  · exact .pure hc
  · exact hobject _ hc
  · rename_i t
    have hparen : (Tree.form .parenType [t]).IsPart := by simpa [ParenContent.IsPart] using hc
    split
    · rename_i b hb
      exact .skip fun _ => .ite (hobject b (isPart_of_asFirstBound? hc hb)) (.pure hparen)
    · exact .pure hparen

theorem pathType_yields {binder : Tree} (plus : Bool) (hb : binder.IsPart) :
    (pathType r plus binder).Yields Tree.IsPart := by
  unfold pathType
  refine .bind (qualifiedPath_yields h false) fun parts hparts => ?_
  split
  · rename_i p
    have hp : p.IsPart := by simpa using hparts
    refine .skip fun _ => .ite (.skip fun _ => .skip fun _ => .pure (by simpa using hp)) ?_
    refine .skip fun _ => .ite ?_ (.pure (by simpa using hp))
    extract_lets first
    have hfirst : first.IsPart := isPart_pathBound hb hp
    have hlone : ∀ trailing, (bareObject [first] trailing).IsPart :=
      fun trailing => isPart_bareObject (by simpa using hfirst)
    refine .branch (.branch ?_ (.pure (hlone true))) (.pure (hlone false))
    refine .bind (joinedBounds_yields (bound_yields h false false)) fun more hmore => .pure ?_
    exact isPart_objectOf (by simp) (List.forall_mem_cons.2 ⟨hfirst, hmore⟩)
  · exact .pure (by simpa using hparts)

theorem pointerType_yields : (pointerType r).Yields Tree.IsPart := by
  unfold pointerType
  refine .skip fun _ => .skip fun _ => ?_
  extract_lets rest
  have hrest : ∀ kind, kind.IsPart → (rest kind).Yields Tree.IsPart :=
    fun kind hk => .bind (h.type false) fun t ht => .pure (by simp [hk, ht])
  exact .ite (.bindPure (hrest _ Tree.isPart_word)) (.skip fun _ => .bindPure (hrest _ Tree.isPart_word))

theorem referenceType_yields : (referenceType r).Yields Tree.IsPart :=
  .skip fun _ => .bind .lifetimePart fun l hl => .bind .wordPart fun m hm =>
    .bind (h.type false) fun t ht => .pure (by simp [hl, hm, ht])

theorem bracketType_yields : (bracketType r).Yields Tree.IsPart :=
  .inside (.bind (h.type true) fun t ht =>
    .branch (.bind (h.expr true) fun e he => .pure (by simp [ht, he])) (.pure (by simpa using ht)))

omit h in
theorem builtin_yields : builtin.Yields Tree.IsPart :=
  .skip fun _ => .skip fun _ => .skip fun _ => .skip fun _ => .ite (.pure (by simp)) .reject

theorem type_yields (plus : Bool) : (type r plus).Yields Tree.IsPart := by
  unfold type
  refine .bind (binder?_yields h) fun binder hb => ?_
  extract_lets rest
  have hdyn : Yields (op? "*" >>= fun star => objectBounds r plus >>= fun bounds =>
      if star = true then pure .uninterpreted else pure (objectOf [.word "dyn"] bounds)) Tree.IsPart :=
    .skip fun _ => .bind (objectBounds_yields h plus) fun bs hbs =>
      .ite (.pure (by simp)) (.pure (isPart_objectOf (List.forall_mem_singleton.2 Tree.isPart_word) hbs))
  have hrest : ∀ u, (rest u).Yields Tree.IsPart := by
    refine fun _ => .branch (parenType_yields h plus) (.branch (functionType_yields h hb) ?_)
    refine .branch builtin_yields (.branch (pathType_yields h plus hb) (.branch hdyn ?_))
    refine .branch (bracketType_yields h) (.branch (pointerType_yields h) ?_)
    refine .branch (referenceType_yields h) (.branch (.skip fun _ => .pure (by simp)) ?_)
    refine .branch ?_ (.branch (.pure (by simp)) (.branch ?_ .reject))
    · refine .bind (implBounds_yields h plus) fun bs hbs => .pure ?_
      exact Tree.isPart_form.2 fun t ht => hbs t (List.mem_filter.1 ht).1
    · exact .bind (objectBounds_yields h true) fun bs hbs => .pure (isPart_objectOf (by simp) hbs)
  exact .ite (.skip hrest) (hrest ())

end DisplayGen.Source.Grammar
