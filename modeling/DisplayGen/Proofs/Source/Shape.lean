import DisplayGen.Source.Tree

/-!
# The shape of syntax trees

Trees can be built in any shape. Those that the grammar makes hold structs and modules in two places
only: among the items of a file or module, and in blocks.

* `Tree.Inert`: no struct and no module stands in the tree outside of its blocks.
* `Tree.IsItem`: the tree is an item of a file or module.
* `Tree.Regular`: the structs and modules in the tree, also those in its blocks, have the parts that the
  grammar gives them.
* `Tree.IsPart`: the tree is inert and regular. Expressions, types, patterns and attributes are parts, and
  so is an item that is neither a struct nor a module.
-/

namespace DisplayGen.Source

namespace Tree

mutual

/-- No struct and no module stands in the tree outside of its blocks. -/
def Inert : Tree → Prop
  | .leaf _ => True
  | .node (.struct _) _ => False
  | .node (.module _ _) _ => False
  | .node .block _ => True
  | .node _ children => AllInert children

/-- The trees are inert. -/
def AllInert : List Tree → Prop
  | [] => True
  | t :: ts => Inert t ∧ AllInert ts

end

@[simp] theorem allInert_iff {ts : List Tree} : AllInert ts ↔ ∀ t ∈ ts, t.Inert := by
  induction ts with
  | nil => simp [AllInert]
  | cons t ts ih => simp [AllInert, ih]

/-- An item of a file or module: a struct, a module, or an inert tree. The items of a module stand in
the last of its four children. -/
inductive IsItem : Tree → Prop where
  | struct {head : StructHead} {children : List Tree} (outer : ∀ a ∈ head.attributes, a.inner = false)
      (parts : ∀ t ∈ children, t.Inert) : IsItem (.node (.struct head) children)
  | inlineModule {i : Ident} {attributes visibility unsafety : Tree} {items : List Tree}
      (ha : attributes.Inert) (hv : visibility.Inert) (hu : unsafety.Inert)
      (content : ∀ t ∈ items, IsItem t) :
      IsItem (.node (.module i true) [attributes, visibility, unsafety, .list items])
  | outlineModule {i : Ident} {attributes visibility unsafety : Tree} :
      IsItem (.node (.module i false) [attributes, visibility, unsafety, .list []])
  | inert {t : Tree} (h : t.Inert) : IsItem t

/-! ## Regular trees -/

mutual

/-- The tree is made of leaves and of forms that declare nothing. -/
def Plain : Tree → Prop
  | .leaf _ => True
  | .node (.form _) children => AllPlain children
  | .node _ _ => False

/-- The trees are plain. -/
def AllPlain : List Tree → Prop
  | [] => True
  | t :: ts => Plain t ∧ AllPlain ts

end

theorem allPlain_iff {ts : List Tree} : AllPlain ts ↔ ∀ t ∈ ts, t.Plain := by
  induction ts with
  | nil => simp [AllPlain]
  | cons t ts ih => simp [AllPlain, ih]

/-- The tree is an attribute. -/
def IsAttribute (t : Tree) : Prop := ∃ head children, t = .node (.attribute head) children

end Tree

/-- What the grammar says about a struct and a module: a struct has outer attributes only, and a module with
its content elsewhere has attributes, but nothing else in which an item could stand. -/
def Label.Fits : Label → List Tree → Prop
  | .struct head, _ => ∀ a ∈ head.attributes, a.inner = false
  | .module _ false, children => ∃ attributes visibility unsafety,
      children = [.list attributes, visibility, unsafety, .list []] ∧
        (∀ t ∈ attributes, t.IsAttribute) ∧ visibility.Plain ∧ unsafety.Plain
  | _, _ => True

namespace Tree

mutual

/-- The structs and modules in the tree, however deep, are as the grammar makes them. -/
def Regular : Tree → Prop
  | .leaf _ => True
  | .node label children => label.Fits children ∧ AllRegular children

/-- The trees are regular. -/
def AllRegular : List Tree → Prop
  | [] => True
  | t :: ts => Regular t ∧ AllRegular ts

end

theorem allRegular_iff {ts : List Tree} : AllRegular ts ↔ ∀ t ∈ ts, t.Regular := by
  induction ts with
  | nil => simp [AllRegular]
  | cons t ts ih => simp [AllRegular, ih]

theorem regular_node {label : Label} {children : List Tree} :
    (node label children).Regular ↔ label.Fits children ∧ ∀ t ∈ children, t.Regular := by
  rw [Regular, allRegular_iff]

/-- The tree is a part of an item, like an expression or a type. -/
structure IsPart (t : Tree) : Prop where
  inert : t.Inert
  regular : t.Regular

/-- The tree is an item, and regular. -/
structure IsRegularItem (t : Tree) : Prop where
  item : t.IsItem
  regular : t.Regular

/-! ## Parts -/

section

variable {label : Label} {f : Form} {children : List Tree} {i : Ident}

@[simp] theorem isPart_leaf {t : TokenTree} : (leaf t).IsPart := ⟨trivial, trivial⟩

theorem isPart_node (hinert : (node label children).Inert ↔ AllInert children)
    (hfits : label.Fits children) : (node label children).IsPart ↔ ∀ t ∈ children, t.IsPart := by
  constructor
  · intro h t ht
    exact ⟨allInert_iff.1 (hinert.1 h.inert) t ht, (regular_node.1 h.regular).2 t ht⟩
  · intro h
    exact ⟨hinert.2 (allInert_iff.2 fun t ht => (h t ht).inert),
      regular_node.2 ⟨hfits, fun t ht => (h t ht).regular⟩⟩

@[simp] theorem isPart_node_form : (node (.form f) children).IsPart ↔ ∀ t ∈ children, t.IsPart :=
  isPart_node Iff.rfl trivial

@[simp] theorem isPart_form : (form f children).IsPart ↔ ∀ t ∈ children, t.IsPart := isPart_node_form

@[simp] theorem isPart_list : (list children).IsPart ↔ ∀ t ∈ children, t.IsPart := isPart_form

/-- A block is a part if what stands in it is regular. -/
@[simp] theorem isPart_block : (node .block children).IsPart ↔ ∀ t ∈ children, t.Regular :=
  ⟨fun h => (regular_node.1 h.regular).2, fun h => ⟨trivial, regular_node.2 ⟨trivial, h⟩⟩⟩

@[simp] theorem isPart_attribute {head : AttributeHead} :
    (node (.attribute head) children).IsPart ↔ ∀ t ∈ children, t.IsPart :=
  isPart_node Iff.rfl trivial

@[simp] theorem isPart_named {kind : NamedKind} :
    (node (.named kind i) children).IsPart ↔ ∀ t ∈ children, t.IsPart :=
  isPart_node Iff.rfl trivial

@[simp] theorem isPart_use {leading : Bool} {tree : UseTree} :
    (node (.use leading tree) children).IsPart ↔ ∀ t ∈ children, t.IsPart :=
  isPart_node Iff.rfl trivial

@[simp] theorem isPart_macroItem {name : Option Ident} :
    (node (.macroItem name) children).IsPart ↔ ∀ t ∈ children, t.IsPart :=
  isPart_node Iff.rfl trivial

@[simp] theorem isPart_implementation {ofTrait : Bool} :
    (node (.implementation ofTrait) children).IsPart ↔ ∀ t ∈ children, t.IsPart :=
  isPart_node Iff.rfl trivial

@[simp] theorem isPart_foreignBlock :
    (node .foreignBlock children).IsPart ↔ ∀ t ∈ children, t.IsPart :=
  isPart_node Iff.rfl trivial

@[simp] theorem isPart_ident : (ident i).IsPart := isPart_leaf

@[simp] theorem isPart_tokens {d : Delimiter} {content : List TokenTree} :
    (tokens d content).IsPart := isPart_leaf

@[simp] theorem isPart_word {w : String} {h : isSpelling false w = true} : (word w h).IsPart := isPart_leaf

@[simp] theorem isPart_punct {c : Char} : (punct c).IsPart := isPart_leaf

@[simp] theorem isPart_lifetime : (lifetime i).IsPart := by simp [lifetime]

@[simp] theorem isPart_operator {s : String} : (operator s).IsPart := by simp [operator]

@[simp] theorem isPart_uninterpreted : uninterpreted.IsPart := by simp [uninterpreted]

@[simp] theorem plain_leaf {t : TokenTree} : (leaf t).Plain := trivial

@[simp] theorem plain_form : (form f children).Plain ↔ ∀ t ∈ children, t.Plain := allPlain_iff

@[simp] theorem plain_list : (list children).Plain ↔ ∀ t ∈ children, t.Plain := plain_form

@[simp] theorem plain_ident : (ident i).Plain := plain_leaf

@[simp] theorem plain_word {w : String} {h : isSpelling false w = true} : (word w h).Plain := plain_leaf

@[simp] theorem plain_punct {c : Char} : (punct c).Plain := plain_leaf

mutual

theorem Plain.isPart {t : Tree} (h : t.Plain) : t.IsPart := by
  match t, h with
  | .leaf _, _ => exact isPart_leaf
  | .node (.form _) _, h => exact isPart_node_form.2 (AllPlain.isPart h)

theorem AllPlain.isPart {ts : List Tree} (h : AllPlain ts) : ∀ t ∈ ts, t.IsPart := by
  match ts, h with
  | [], _ => simp
  | t :: ts, h => exact List.forall_mem_cons.2 ⟨h.1.isPart, AllPlain.isPart h.2⟩

end

end

/-! ## Items -/

namespace IsRegularItem

theorem part {t : Tree} (h : t.IsPart) : t.IsRegularItem := ⟨.inert h.inert, h.regular⟩

theorem struct {head : StructHead} {children : List Tree} (outer : ∀ a ∈ head.attributes, a.inner = false)
    (parts : ∀ t ∈ children, t.IsPart) : (node (.struct head) children).IsRegularItem where
  item := .struct outer fun t ht => (parts t ht).inert
  regular := regular_node.2 ⟨outer, fun t ht => (parts t ht).regular⟩

theorem inlineModule {i : Ident} {attributes visibility unsafety : Tree} {items : List Tree}
    (ha : attributes.IsPart) (hv : visibility.IsPart) (hu : unsafety.IsPart)
    (content : ∀ t ∈ items, t.IsRegularItem) :
    (node (.module i true) [attributes, visibility, unsafety, .list items]).IsRegularItem where
  item := .inlineModule ha.inert hv.inert hu.inert fun t ht => (content t ht).item
  regular := by
    have hitems : (list items).Regular := regular_node.2 ⟨trivial, fun t ht => (content t ht).regular⟩
    refine regular_node.2 ⟨trivial, ?_⟩
    simp only [List.forall_mem_cons, ha.regular, hv.regular, hu.regular, hitems]
    simp

theorem outlineModule {i : Ident} {attributes : List Tree} {visibility unsafety : Tree}
    (ha : ∀ t ∈ attributes, t.IsPart ∧ t.IsAttribute) (hv : visibility.Plain) (hu : unsafety.Plain) :
    (node (.module i false) [.list attributes, visibility, unsafety, .list []]).IsRegularItem where
  item := .outlineModule
  regular := by
    have hattributes : (list attributes).Regular :=
      regular_node.2 ⟨trivial, fun t ht => (ha t ht).1.regular⟩
    have hnone : (list []).Regular := regular_node.2 ⟨trivial, by simp⟩
    refine regular_node.2 ⟨⟨_, _, _, rfl, fun t ht => (ha t ht).2, hv, hu⟩, ?_⟩
    simp only [List.forall_mem_cons, hattributes, hv.isPart.regular, hu.isPart.regular,
      hnone]
    simp

end IsRegularItem

end Tree

@[simp] theorem SimplePath.plain_toTree {p : SimplePath} : p.toTree.Plain := by
  simp only [toTree, Tree.plain_form, List.forall_mem_append, List.forall_mem_map]
  refine ⟨?_, fun i _ => by simp⟩
  split <;> simp

@[simp] theorem SimplePath.isPart_toTree {p : SimplePath} : p.toTree.IsPart :=
  p.plain_toTree.isPart

end DisplayGen.Source
