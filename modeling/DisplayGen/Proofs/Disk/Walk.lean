import DisplayGen.Crate.Stored
import DisplayGen.Proofs.Disk.Listing
import DisplayGen.Proofs.Disk.Path
import Mathlib.Data.List.Induction
import Mathlib.Data.List.Lex

/-!
# Walks over a directory tree

`Disk.Walked d start q`: a walk that starts at a place and goes into every directory comes to `q`.

`Disk.IsTree d start`: all that stands below the place stands in a directory, under a name that a file can
have. There the walk comes to all of it, and so `Disk.sourceFiles` are the source files that it finds
(`IsTree.mem_sourceFiles`), in the order of their paths (`IsTree.pairwise_sourceFiles`). The order in which
the disk lists its places makes no difference (`Proper.alike_of_perm`).
-/

namespace DisplayGen

/-- A name ends in the extension of source files, and there is something before it. -/
theorem isSourceName_iff {name : String} :
    isSourceName name = true ↔ ∃ stem : String, stem ≠ "" ∧ name = stem ++ ".rs" := by
  have hends : name.endsWith ".rs" = true ↔ ∃ stem : String, name = stem ++ ".rs" := by
    rw [← String.endsWith_toSlice, String.Slice.endsWith_string_iff, String.copy_toSlice]
    constructor
    · rintro ⟨before, hbefore⟩
      refine ⟨String.ofList before, ?_⟩
      apply String.toList_injective
      rw [String.toList_append, String.toList_ofList, hbefore]
    · rintro ⟨stem, rfl⟩
      exact ⟨stem.toList, String.toList_append.symm⟩
  unfold isSourceName
  rw [Bool.and_eq_true, bne_iff_ne, hends]
  constructor
  · rintro ⟨hne, stem, rfl⟩
    refine ⟨stem, ?_, rfl⟩
    rintro rfl
    exact hne rfl
  · rintro ⟨stem, hstem, rfl⟩
    refine ⟨fun heq => hstem ?_, stem, rfl⟩
    exact (String.append_left_inj ".rs").1 (heq.trans rfl)

namespace Disk

variable {d d' : Disk} {start p q file : List String}

/-! ## Walks -/

/-- The places that a walk comes to from a place, if it goes into every directory. -/
inductive Walked (d : Disk) (start : List String) : List String → Prop where
  | start : Walked d start start
  | entry {p : List String} {n : String} (h : Walked d start p) (hdir : d.node? p = some .directory)
      (hentry : (d.node? (p ++ [n])).isSome) : Walked d start (p ++ [n])

theorem Walked.isBelow (h : d.Walked start q) : start <+: q := by
  induction h with
  | start => exact List.prefix_rfl
  | entry _ _ _ ih => exact ih.trans (List.prefix_append _ _)

/-- A directory tree: all that stands below its root stands in a directory, and under no name that is empty,
one of `.` and `..`, or has a slash or a backslash. -/
structure IsTree (d : Disk) (start : List String) : Prop where
  proper : d.Proper
  root : d.node? start = some .directory
  inside : ∀ q ∈ d.nodes.map Prod.fst, start <+: q → q ≠ start → d.node? q.dropLast = some .directory
  names : ∀ q ∈ d.nodes.map Prod.fst, start <+: q →
    ∀ n ∈ q.drop start.length, IsPlainName n ∧ '\\' ∉ n.toList

/-- A walk over a tree comes to all that stands below the place where it starts. -/
theorem IsTree.walked (h : d.IsTree start) (hbelow : start <+: q) (hq : (d.node? q).isSome) :
    d.Walked start q := by
  obtain ⟨rest, rfl⟩ := hbelow
  induction rest using List.reverseRecOn with
  | nil =>
    rw [List.append_nil]
    exact .start
  | append_singleton rest n ih =>
    rw [← List.append_assoc] at hq ⊢
    obtain ⟨node, hnode⟩ := Option.isSome_iff_exists.1 hq
    have hbelow : start <+: start ++ rest ++ [n] := (List.prefix_append _ _).trans (List.prefix_append _ _)
    have hdir := h.inside _ (List.mem_map_of_mem (mem_nodes_of_node? hnode (by simp))) hbelow (by simp)
    rw [List.dropLast_concat] at hdir
    exact .entry (ih (by rw [hdir]; rfl)) hdir hq

theorem IsTree.names_of_hasFile (h : d.IsTree start) (hfile : d.HasFile (start ++ file)) :
    ∀ n ∈ file, IsPlainName n ∧ '\\' ∉ n.toList := by
  obtain ⟨content, written, hnode⟩ := hfile
  have hq : start ++ file ≠ [] := HasFile.ne_nil ⟨content, written, hnode⟩
  have hnames := h.names _ (List.mem_map_of_mem (mem_nodes_of_node? hnode hq)) (List.prefix_append _ _)
  rwa [List.drop_left] at hnames

/-! ## The order of paths -/

/-- Places are in the order of their names, one after the other. -/
theorem placeLe_iff : placeLe p q = true ↔ p < q ∨ p = q := by
  induction p generalizing q with
  | nil =>
    cases q with
    | nil => simp [placeLe]
    | cons b q => simp [placeLe]
  | cons a p ih =>
    cases q with
    | nil => simp [placeLe]
    | cons b q =>
      unfold placeLe
      rw [List.cons_lt_cons_iff, List.cons.injEq]
      by_cases hab : a = b
      · subst hab
        rw [if_pos rfl, ih]
        simp
      · rw [if_neg hab, decide_eq_true_iff]
        simp [hab]

theorem placeLe_append (start p q : List String) :
    placeLe (start ++ p) (start ++ q) = placeLe p q := by
  induction start with
  | nil => rfl
  | cons a start ih => rw [List.cons_append, List.cons_append, placeLe, if_pos rfl, ih]

/-! ## Source files -/

/-- The source files below a place, as paths from there. -/
def sourceFiles (d : Disk) (start : List String) : List (List String) :=
  (d.sourcesBelow start).map (·.drop start.length)

theorem sourcesBelow_eq (d : Disk) (start : List String) :
    d.sourcesBelow start = (d.sourceFiles start).map (start ++ ·) := by
  have hbelow : ∀ q ∈ d.sourcesBelow start, start ++ q.drop start.length = q := by
    intro q hq
    obtain ⟨rest, rfl⟩ := (mem_filesBelow.1 (List.mem_filter.1 hq).1).1
    rw [List.drop_left]
  unfold sourceFiles
  rw [List.map_map]
  exact ((List.map_congr_left hbelow).trans (List.map_id _)).symm

/-- The path of a source file: directories, and a name with the extension. -/
def IsSourcePath (file : List String) : Prop :=
  ∃ (dirs : List String) (stem : String), stem ≠ "" ∧ file = dirs ++ [stem ++ ".rs"]

theorem isSourcePath_iff : IsSourcePath file ↔ file.getLast?.any isSourceName = true := by
  rcases List.eq_nil_or_concat file with rfl | ⟨dirs, last, rfl⟩
  · simp [IsSourcePath]
  · rw [List.concat_eq_append, List.getLast?_concat, Option.any_some, isSourceName_iff]
    unfold IsSourcePath
    constructor
    · rintro ⟨dirs', stem, hstem, heq⟩
      exact ⟨stem, hstem, (List.append_singleton_inj.1 heq).2⟩
    · rintro ⟨stem, hstem, rfl⟩
      exact ⟨dirs, stem, hstem, rfl⟩

namespace IsTree

/-- The source files are what a walk finds. -/
theorem mem_sourceFiles (h : d.IsTree start) :
    file ∈ d.sourceFiles start ↔
      d.Walked start (start ++ file) ∧ d.HasFile (start ++ file) ∧ IsSourcePath file := by
  have hmem : file ∈ d.sourceFiles start ↔ start ++ file ∈ d.sourcesBelow start := by
    rw [sourcesBelow_eq, List.mem_map_of_injective (List.append_right_injective start)]
  have hlast : d.HasFile (start ++ file) → (start ++ file).getLast? = file.getLast? := by
    rintro ⟨content, written, hnode⟩
    apply List.getLast?_append_of_ne_nil
    rintro rfl
    rw [List.append_nil, h.root] at hnode
    cases hnode
  rw [hmem]
  unfold sourcesBelow
  rw [List.mem_filter, h.proper.mem_filesBelow, isSourcePath_iff, and_assoc]
  constructor
  · rintro ⟨hbelow, hfile, hname⟩
    have hstands : (d.node? (start ++ file)).isSome := by
      obtain ⟨content, written, hnode⟩ := hfile
      rw [hnode]
      rfl
    exact ⟨h.walked hbelow hstands, hfile, hlast hfile ▸ hname⟩
  · rintro ⟨hwalked, hfile, hname⟩
    exact ⟨hwalked.isBelow, hfile, (hlast hfile).symm ▸ hname⟩

/-- The source files are in the order of their paths, each once. -/
theorem pairwise_sourceFiles (h : d.IsTree start) :
    (d.sourceFiles start).Pairwise (· < ·) := by
  have hle : (d.sourcesBelow start).Pairwise fun p q => placeLe p q = true :=
    (d.pairwise_filesBelow start).filter _
  have hne : (d.sourcesBelow start).Nodup := (h.proper.nodup_filesBelow start).filter _
  have hboth := hle.and hne
  rw [sourcesBelow_eq, List.pairwise_map] at hboth
  refine hboth.imp fun {p q} hpq => ?_
  obtain ⟨hpq, hne⟩ := hpq
  rw [placeLe_append, placeLe_iff] at hpq
  exact hpq.resolve_right fun heq => hne (by rw [heq])

end IsTree

/-! ## Listings in another order -/

theorem Proper.node?_iff (h : d.Proper) {n : DiskNode} (hq : q ≠ []) :
    d.node? q = some n ↔ (q, n) ∈ d.nodes :=
  ⟨fun hnode => mem_nodes_of_node? hnode hq, h.node?_eq_some⟩

section

variable (h : d.Proper) {nodes : List (List String × DiskNode)} (hperm : nodes.Perm d.nodes)

include h hperm

theorem Proper.perm : ({ d with nodes } : Disk).Proper :=
  ⟨((hperm.map Prod.fst).nodup_iff).2 h.nodup, fun hmem => h.root ((hperm.map Prod.fst).mem_iff.1 hmem)⟩

/-- What stands at a place does not depend on the order in which places are listed. -/
theorem Proper.node?_perm (q : List String) : ({ d with nodes } : Disk).node? q = d.node? q := by
  by_cases hq : q = []
  · subst hq
    rfl
  · apply Option.ext
    intro n
    rw [(h.perm hperm).node?_iff hq, h.node?_iff hq]
    exact hperm.mem_iff

theorem Proper.alike_of_perm : d.Alike { d with nodes } :=
  ⟨rfl, fun q => by rw [h.node?_perm hperm]⟩

end

end Disk

end DisplayGen
