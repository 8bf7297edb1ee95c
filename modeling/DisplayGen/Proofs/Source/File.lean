import DisplayGen.Proofs.Source.Grammar.Statement
import DisplayGen.Source.File

/-!
# The shape of source files

The rules for any depth have the right shape (`rulesAt_shaped`, by induction on the depth: each step
builds all readers over rules that have it), and with them every file that is read: its items are items
(`File.Shaped`), and all that stands in it is regular (`File.Regular`).
-/

namespace DisplayGen.Source

namespace Grammar

theorem none_shaped : Rules.none.Shaped where
  expr _ := .reject
  unary _ := .reject
  operand _ _ := .reject
  statementExpr := .reject
  type _ := .reject
  bound _ _ := .reject
  genericParam := .reject
  pattern := .reject
  statements := .reject
  item := .reject

theorem step_shaped {r : Rules} (h : r.Shaped) : (step r).Shaped where
  expr := expr_yields h
  unary := unary_yields h
  operand := operand_yields h
  statementExpr := statementExpr_yields h
  type := type_yields h
  bound := bound_yields h
  genericParam := genericParam_yields h
  pattern := pattern_yields h
  statements := statements_yields h
  item := item_yields h

theorem rulesAt_shaped (n : Nat) : (rulesAt n).Shaped := by
  induction n with
  | zero => exact none_shaped
  | succ n ih => exact step_shaped ih

theorem rulesFor_shaped (ts : List TokenTree) : (rulesFor ts).Shaped := rulesAt_shaped _

end Grammar

namespace File

/-- The attributes of the file are inert, and its items are items. -/
structure Shaped (file : File) : Prop where
  attributes : ∀ t ∈ file.attributes, t.Inert
  items : ∀ t ∈ file.items, t.IsItem

/-- The structs and modules in the file, however deep, are as the grammar makes them. -/
def Regular (file : File) : Prop := ∀ t ∈ file.attributes ++ file.items, t.Regular

/-- A file that is read holds attributes and items. -/
theorem read?_yields {text : String} {file : File} (h : read? text = some file) :
    (∀ t ∈ file.attributes, t.IsPart) ∧ ∀ t ∈ file.items, t.IsRegularItem := by
  unfold read? at h
  split at h
  · rename_i ts _
    have hr := Grammar.rulesFor_shaped ts
    unfold ofTokens? at h
    simp only at h
    split at h
    · rename_i hread
      cases h
      exact (Grammar.itemsOf_yields hr (Grammar.item_yields hr)).whole? hread
    · cases h
  · cases h

theorem read?_shaped {text : String} {file : File} (h : read? text = some file) : file.Shaped where
  attributes t ht := ((read?_yields h).1 t ht).inert
  items t ht := ((read?_yields h).2 t ht).item

theorem read?_regular {text : String} {file : File} (h : read? text = some file) : file.Regular :=
  List.forall_mem_append.2
    ⟨fun t ht => ((read?_yields h).1 t ht).regular, fun t ht => ((read?_yields h).2 t ht).regular⟩

end File

end DisplayGen.Source
