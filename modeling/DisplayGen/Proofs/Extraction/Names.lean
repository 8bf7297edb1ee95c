import DisplayGen.Proofs.Extraction.Declared
import DisplayGen.Proofs.Source.Reading

/-!
# Names of structs and fields

The grammar decides which identifiers can stand in a declared struct: its own name is one that can name
something, and so are those of its fields, but for the field that is written `_`.

* `Grammar.rulesAt_namesStructs`: the items that the rules read have such structs, by induction on the
  depth of the rules.
* `Crate.Built.isNamed`: so have the crates that can be built.
-/

namespace DisplayGen

open Source

namespace Source

/-- The name can be that of a field: it can name something, or it is `_`. -/
def Ident.isFieldName (i : Ident) : Bool := i.isName || i.isWord "_"

/-- The names of the struct and of its fields can stand there. -/
structure StructHead.IsNamed (head : StructHead) : Prop where
  name : head.name.isName = true
  fields : ∀ fs, head.fields = .named fs → ∀ f ∈ fs, f.name.isFieldName = true

/-- The structs that the item declares are named. -/
def Tree.NamesStructs (t : Tree) : Prop := ∀ module, ∀ d ∈ t.structsIn module, d.head.IsNamed

theorem Tree.Inert.namesStructs {t : Tree} (h : t.Inert) : t.NamesStructs := by
  intro module d hd
  rw [h.structsIn] at hd
  cases hd

namespace Grammar

open Reader

variable {r : Rules}

theorem name_yields : Reader.name.Yields fun i => i.isName = true := by
  intro ts i rest h
  unfold Reader.name at h
  split at h
  · split at h
    · rename_i hname
      cases h
      exact hname
    · cases h
  · cases h

/-- Where `_` comes next, any word is read, and otherwise a name. -/
theorem fieldName_yields {α : Type} {Q : α → Prop} {rest : Bool → Ident → Reader α}
    (hrest : ∀ unnamed i, i.isFieldName = true → (rest unnamed i).Yields Q) :
    Yields (sees (Peek.word "_") >>= fun unnamed =>
      if unnamed = true then anyWord >>= rest unnamed else Reader.name >>= rest unnamed) Q := by
  intro ts a left h
  cases hunnamed : Peek.word "_" ts with
  | false =>
    have hname : Reader.name.Yields fun i => i.isFieldName = true :=
      name_yields.mono fun i hi => by rw [Ident.isFieldName, hi, Bool.true_or]
    rw [bind_of_eq (a := false) (r := ts) (by rw [sees, hunnamed])] at h
    exact Yields.bind hname (hrest false) ts a left h
  | true =>
    rw [bind_of_eq (a := true) (r := ts) (by rw [sees, hunnamed])] at h
    cases ts with
    | nil => cases hunnamed
    | cons t ts =>
      cases t with
      | ident i =>
        have hword : i.isWord "_" = true := hunnamed
        exact hrest true i (by rw [Ident.isFieldName, hword, Bool.or_true]) ts a left h
      | _ => cases hunnamed

theorem namedField_named : (namedField r).Yields fun f => f.1.name.isFieldName = true := by
  unfold namedField
  refine .skip fun attributes => .skip fun v => fieldName_yields fun unnamed i hi => ?_
  refine .skip fun _ => .skip fun _ => .ite (.skip fun _ => .skip fun _ => .pure hi) ?_
  exact .skip fun t => .pure hi

theorem structItem_named {attributes : List Tree} :
    (structItem r attributes).Yields Tree.NamesStructs := by
  unfold structItem
  refine .skip fun v => .skip fun _ => .bind name_yields fun i hi => .skip fun ps => .skip fun cs => ?_
  extract_lets declared
  have hdeclared : ∀ f conditions fields, (∀ fs, f = .named fs → ∀ x ∈ fs, x.name.isFieldName = true) →
      (declared f conditions fields).NamesStructs := by
    intro f conditions fields hf module d hd
    rw [List.mem_singleton.1 hd]
    exact ⟨hi, hf⟩
  refine .skip fun _ => .ite ?_ (.branch ?_ ?_)
  · exact .skip fun fs => .skip fun cs' => .skip fun _ => .pure (hdeclared _ _ _ fun _ h => nomatch h)
  · refine .bind (.inside (.commas namedField_named)) fun fs hfs => .pure (hdeclared _ _ _ ?_)
    rintro _ ⟨⟩
    exact List.forall_mem_map.2 hfs
  · exact .skip fun _ => .pure (hdeclared _ _ _ fun _ h => nomatch h)

/-- An item that is neither a struct nor a module declares no struct. -/
theorem part_named {p : Reader Tree} (hp : p.Yields Tree.IsPart) : p.Yields Tree.NamesStructs :=
  hp.mono fun _ ht => ht.inert.namesStructs

section

variable (h : r.Shaped) (hitem : r.item.Yields Tree.NamesStructs)

include h hitem

theorem moduleItem_named {attributes : List Tree} :
    (moduleItem r attributes).Yields Tree.NamesStructs := by
  unfold moduleItem
  refine .skip fun v => .skip fun u => .skip fun _ => .skip fun _ => ?_
  extract_lets content
  have hcontent : ∀ i, (content i).Yields Tree.NamesStructs := by
    refine fun i => .branch (.pure fun module d hd => nomatch hd) ?_
    refine .bind (.inside (itemsOf_yields h hitem)) fun b hb => .pure fun module d hd => ?_
    have hmem : d ∈ Tree.structsInAll (module ++ [i.name]) b.2 := hd
    rw [Tree.structsInAll_eq] at hmem
    obtain ⟨t, ht, hd⟩ := List.mem_flatMap.1 hmem
    exact hb.2 t ht _ d hd
  exact .ite (.skip hcontent) (.skip hcontent)

theorem unsafeItem_named {attributes : List Tree} (ha : ∀ t ∈ attributes, t.IsPart)
    (after : List TokenTree) : (unsafeItem r attributes after).Yields Tree.NamesStructs := by
  refine .ite (part_named (qualifiedTraitItem_yields h ha)) (.ite (part_named (implItem_yields h ha)) ?_)
  exact .ite (part_named (foreignItem_yields h ha)) (.ite (moduleItem_named h hitem) .reject)

theorem itemWith_named {attributes : List Tree} (ha : ∀ t ∈ attributes, t.IsPart) :
    (itemWith r attributes).Yields Tree.NamesStructs := by
  refine .skip fun ahead => ?_
  split
  · exact .reject
  · refine .ite (part_named (functionItem_yields h ha)) ?_
    refine .ite (part_named (externItem_yields h ha _)) ?_
    refine .ite (part_named (useItem_yields ha)) ?_
    refine .ite (part_named (staticItem_yields h ha)) ?_
    refine .ite (part_named (constItem_yields h ha)) ?_
    refine .ite (unsafeItem_named h hitem ha _) ?_
    refine .ite (moduleItem_named h hitem) ?_
    refine .ite (part_named (typeItem_yields h ha)) ?_
    refine .ite structItem_named ?_
    refine .ite (part_named (enumItem_yields h ha)) ?_
    refine .ite (part_named (unionItem_yields h ha)) ?_
    refine .ite (part_named (traitItem_yields h ha)) ?_
    refine .ite (part_named (qualifiedTraitItem_yields h ha)) ?_
    refine .ite (part_named (implItem_yields h ha)) ?_
    refine .ite (part_named macroDefinition_yields) ?_
    exact .ite (part_named (macroItem_yields ha)) .reject

theorem item_named : (item r).Yields Tree.NamesStructs :=
  .bind (outerAttributes_isPart h) fun _ has => itemWith_named h hitem has

end

theorem rulesAt_namesStructs (n : Nat) : (rulesAt n).item.Yields Tree.NamesStructs := by
  induction n with
  | zero => exact .reject
  | succ n ih => exact item_named (rulesAt_shaped n) ih

end Grammar

theorem File.read?_namesStructs {text : String} {file : File} (h : read? text = some file) :
    ∀ t ∈ file.items, t.NamesStructs := by
  unfold read? at h
  split at h
  · rename_i ts _
    unfold ofTokens? at h
    simp only at h
    split at h
    · rename_i hread
      cases h
      have hitem := Grammar.item_named (Grammar.rulesFor_shaped ts) (Grammar.rulesAt_namesStructs _)
      exact ((Grammar.itemsOf_yields (Grammar.rulesFor_shaped ts) hitem).whole? hread).2
    · cases h
  · cases h

end Source

/-- The structs that a crate declares are named. -/
theorem Crate.Built.isNamed {c : Crate} (h : c.Built) {d : DeclaredStruct} (hd : d ∈ c.structs) :
    d.head.IsNamed := by
  obtain ⟨u, hu, hd⟩ := List.mem_flatMap.1 hd
  obtain ⟨text, hread⟩ := h.units_read u hu
  unfold SourceUnit.structs at hd
  rw [Source.Tree.structsInAll_eq] at hd
  obtain ⟨t, ht, hd⟩ := List.mem_flatMap.1 hd
  exact File.read?_namesStructs hread t ht _ d hd

end DisplayGen
