import DisplayGen.Proofs.Source.Shape

/-!
# Where structs stand in a tree

`Tree.At` says that one tree stands in another at a position: the index of the child at each node on the way.
`Tree.structPlaces` lists the structs of a tree, however deep, a struct before what is nested in it. The
positions in the list increase (`pairwise_structPlaces`), so the order is that of the source, and each
struct is listed once.

In a regular tree, the structs have outer attributes only (`Regular.outer`), and those below a module with
its content in a file of its own stand in an attribute of that module (`Regular.inOutlineAttribute`).
-/

namespace DisplayGen.Source

/-- A tree stands in a tree, at the position and below nodes with the labels, the outermost first. -/
inductive Tree.At : Tree → List Nat → List Label → Tree → Prop where
  | self {t : Tree} : At t [] [] t
  | within {label : Label} {children : List Tree} {n : Nat} {child t : Tree} {position : List Nat}
      {above : List Label} (hchild : children[n]? = some child) (h : At child position above t) :
      At (.node label children) (n :: position) (label :: above) t

/-- A struct in a tree: its position, the labels of the nodes that enclose it, the outermost first, and its
head. -/
structure StructPlace where
  position : List Nat
  above : List Label
  head : StructHead

/-- The struct stands in an attribute of a module that has its content in a file of its own. -/
def StructPlace.InOutlineAttribute (p : StructPlace) : Prop :=
  ∃ outer i a inner, p.above = outer ++ .module i false :: .form .list :: .attribute a :: inner

/-- The place, seen from a node that has the tree for a child. -/
def StructPlace.within (label : Label) (n : Nat) (p : StructPlace) : StructPlace where
  position := n :: p.position
  above := label :: p.above
  head := p.head

namespace Tree

variable {p : StructPlace} {label : Label} {children : List Tree}

/-- There is a struct at the place. -/
def HasStruct (t : Tree) (p : StructPlace) : Prop :=
  ∃ parts, t.At p.position p.above (.node (.struct p.head) parts)

/-- The structs of a node are itself, if it is one, and those of its children. -/
theorem hasStruct_node : (node label children).HasStruct p ↔
    (∃ head, label = .struct head ∧ p = ⟨[], [], head⟩) ∨
      ∃ (n : Nat) (child : Tree) (q : StructPlace), children[n]? = some child ∧ child.HasStruct q ∧
        p = q.within label n := by
  constructor
  · rintro ⟨parts, h⟩
    obtain ⟨position, above, head⟩ := p
    dsimp only at h
    cases h with
    | self => exact .inl ⟨head, rfl, rfl⟩
    | within hchild h => exact .inr ⟨_, _, ⟨_, _, head⟩, hchild, ⟨parts, h⟩, rfl⟩
  · rintro (⟨head, rfl, rfl⟩ | ⟨n, child, q, hchild, ⟨parts, h⟩, rfl⟩)
    · exact ⟨children, .self⟩
    · exact ⟨parts, .within hchild h⟩

theorem exists_of_hasStruct (hlabel : ∀ head, label ≠ .struct head) (h : (node label children).HasStruct p) :
    ∃ (n : Nat) (child : Tree) (q : StructPlace), children[n]? = some child ∧ child.HasStruct q ∧
      p = q.within label n := by
  rcases hasStruct_node.1 h with ⟨head, heq, -⟩ | h
  · exact absurd heq (hlabel head)
  · exact h

theorem not_hasStruct_leaf {t : TokenTree} : ¬ (leaf t).HasStruct p := by
  rintro ⟨parts, h⟩
  obtain ⟨position, above, head⟩ := p
  cases h

/-- The place of a node itself, if it is a struct. -/
def ownPlace : Label → List StructPlace
  | .struct head => [⟨[], [], head⟩]
  | _ => []

theorem mem_ownPlace : p ∈ ownPlace label ↔ ∃ head, label = .struct head ∧ p = ⟨[], [], head⟩ := by
  cases label <;> simp [ownPlace]

mutual

/-- The structs of a tree. -/
def structPlaces : Tree → List StructPlace
  | .leaf _ => []
  | .node label children => ownPlace label ++ structPlacesFrom label 0 children

/-- The structs of the children of a node, from the given index on. -/
def structPlacesFrom (label : Label) (n : Nat) : List Tree → List StructPlace
  | [] => []
  | t :: ts => (structPlaces t).map (.within label n) ++ structPlacesFrom label (n + 1) ts

end

/-! ## Every struct is listed -/

mutual

theorem mem_structPlaces (t : Tree) : ∀ p, p ∈ structPlaces t ↔ t.HasStruct p := by
  intro p
  match t with
  | .leaf _ => simp [structPlaces, not_hasStruct_leaf]
  | .node label children =>
    rw [structPlaces, List.mem_append, mem_ownPlace, hasStruct_node, mem_structPlacesFrom label 0 children p]
    simp only [Nat.zero_add]

theorem mem_structPlacesFrom (label : Label) (n : Nat) (ts : List Tree) :
    ∀ p, p ∈ structPlacesFrom label n ts ↔
      ∃ (i : Nat) (child : Tree) (q : StructPlace), ts[i]? = some child ∧ child.HasStruct q ∧
        p = q.within label (n + i) := by
  intro p
  match ts with
  | [] => simp [structPlacesFrom]
  | t :: ts =>
    rw [structPlacesFrom, List.mem_append, List.mem_map, mem_structPlacesFrom label (n + 1) ts p]
    constructor
    · rintro (⟨q, hq, rfl⟩ | ⟨i, child, q, hchild, hq, rfl⟩)
      · exact ⟨0, t, q, rfl, (mem_structPlaces t q).1 hq, rfl⟩
      · exact ⟨i + 1, child, q, hchild, hq, by rw [Nat.add_right_comm, Nat.add_assoc]⟩
    · rintro ⟨i, child, q, hchild, hq, rfl⟩
      cases i with
      | zero =>
        cases hchild
        exact .inl ⟨q, (mem_structPlaces t q).2 hq, rfl⟩
      | succ i => exact .inr ⟨i, child, q, hchild, hq, by rw [Nat.add_right_comm, Nat.add_assoc]⟩

end

/-! ## In source order -/

mutual

theorem pairwise_structPlaces (t : Tree) :
    (structPlaces t).Pairwise fun p q => p.position < q.position := by
  match t with
  | .leaf _ => exact .nil
  | .node label children =>
    rw [structPlaces, List.pairwise_append]
    refine ⟨?_, pairwise_structPlacesFrom label 0 children, ?_⟩
    · unfold ownPlace
      split
      · exact List.pairwise_singleton _ _
      · exact .nil
    · intro p hp q hq
      obtain ⟨head, -, rfl⟩ := mem_ownPlace.1 hp
      obtain ⟨i, child, r, -, -, rfl⟩ := (mem_structPlacesFrom label 0 children q).1 hq
      exact List.nil_lt_cons _ _

theorem pairwise_structPlacesFrom (label : Label) (n : Nat) (ts : List Tree) :
    (structPlacesFrom label n ts).Pairwise fun p q => p.position < q.position := by
  match ts with
  | [] => exact .nil
  | t :: ts =>
    rw [structPlacesFrom, List.pairwise_append, List.pairwise_map]
    refine ⟨(pairwise_structPlaces t).imp fun {p q} h => List.cons_lt_cons_iff.2 (.inr ⟨rfl, h⟩),
      pairwise_structPlacesFrom label (n + 1) ts, ?_⟩
    intro p hp q hq
    obtain ⟨p', -, rfl⟩ := List.mem_map.1 hp
    obtain ⟨i, child, q', -, -, rfl⟩ := (mem_structPlacesFrom label (n + 1) ts q).1 hq
    exact List.cons_lt_cons_iff.2 (.inl (by omega))

end

/-! ## In regular trees -/

theorem Regular.of_at {t s : Tree} {position : List Nat} {above : List Label} (h : t.Regular)
    (hs : t.At position above s) : s.Regular := by
  induction hs with
  | self => exact h
  | within hchild _ ih => exact ih ((regular_node.1 h).2 _ (List.mem_of_getElem? hchild))

/-- A struct has no attributes but outer ones. -/
theorem Regular.outer {t : Tree} (h : t.Regular) (hp : t.HasStruct p) :
    ∀ a ∈ p.head.attributes, a.inner = false := by
  obtain ⟨parts, hp⟩ := hp
  exact (regular_node.1 (h.of_at hp)).1

theorem Plain.of_at {t s : Tree} {position : List Nat} {above : List Label} (h : t.Plain)
    (hs : t.At position above s) : s.Plain := by
  induction hs with
  | self => exact h
  | @within label children n child t position above hchild _ ih =>
    cases label with
    | form f => exact ih (allPlain_iff.1 h _ (List.mem_of_getElem? hchild))
    | _ => exact absurd h id

theorem Plain.not_hasStruct {t : Tree} (h : t.Plain) : ¬ t.HasStruct p := by
  rintro ⟨parts, hp⟩
  exact h.of_at hp

/-- The structs below a module that has its content in a file of its own stand in its attributes. -/
theorem inOutlineAttribute_of_fits {i : Ident} (h : Label.Fits (.module i false) children)
    (hp : (node (.module i false) children).HasStruct p) : p.InOutlineAttribute := by
  obtain ⟨attributes, visibility, unsafety, rfl, hattributes, hvisibility, hunsafety⟩ := h
  obtain ⟨n, child, q, hchild, hq, rfl⟩ := exists_of_hasStruct (by simp) hp
  match n with
  | 0 =>
    cases hchild
    obtain ⟨n, t, q, ht, hq, rfl⟩ := exists_of_hasStruct (by simp) hq
    obtain ⟨a, value, rfl⟩ := hattributes t (List.mem_of_getElem? ht)
    obtain ⟨n, t, q, -, -, rfl⟩ := exists_of_hasStruct (by simp) hq
    exact ⟨[], i, a, q.above, rfl⟩
  | 1 =>
    cases hchild
    exact absurd hq hvisibility.not_hasStruct
  | 2 =>
    cases hchild
    exact absurd hq hunsafety.not_hasStruct
  | 3 =>
    cases hchild
    obtain ⟨n, t, q, ht, -, rfl⟩ := exists_of_hasStruct (by simp) hq
    cases ht
  | n + 4 => cases hchild

theorem Regular.inOutlineAttribute {t : Tree} (h : t.Regular) (hp : t.HasStruct p) {i : Ident}
    (hi : .module i false ∈ p.above) : p.InOutlineAttribute := by
  obtain ⟨position, above, head⟩ := p
  obtain ⟨parts, hp⟩ := hp
  dsimp only at hp hi
  generalize hs : Tree.node (.struct head) parts = s at hp
  induction hp with
  | self => cases hi
  | @within label children n child t position above hchild hp ih =>
    subst hs
    rcases List.mem_cons.1 hi with rfl | hi
    · exact inOutlineAttribute_of_fits (regular_node.1 h).1 ⟨parts, .within hchild hp⟩
    · have hregular := (regular_node.1 h).2 child (List.mem_of_getElem? hchild)
      obtain ⟨outer, j, a, inner, heq⟩ := ih hregular hi rfl
      exact ⟨label :: outer, j, a, inner, congrArg (label :: ·) heq⟩

end Tree

end DisplayGen.Source
