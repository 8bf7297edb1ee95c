import DisplayGen.Proofs.Crate
import DisplayGen.Proofs.Crate.Files

/-!
# Loading a crate

A crate is loaded file by file. As the files of a tree make units of different names, none of them stands in
the way of another (`foldlM_addFile`), and a crate is loaded like the list of its units (`load_eq`).

* `Disk.IsUnit`, `Disk.Refuses`: what unit a source file makes by itself, and how it fails.
* `Crate.load_tree`: loading takes exactly the source files of a tree, in the order of their paths; it gives
  a unit for each of them, or the failure of the first that fails.
-/

namespace DisplayGen

open Source (File)
open Disk (shown IsSourcePath)

namespace Disk

variable {d : Disk} {dir : String} {start file : List String} {u : SourceUnit} {e : GenerationError}

/-! ## One file -/

/-- The unit that a source file makes by itself. -/
def readUnit (d : Disk) (dir : String) (start file : List String) : Except GenerationError SourceUnit :=
  match d.textAt (start ++ file) with
  | .error e => .error (.unreadable (file.foldl joinPaths dir) e)
  | .ok text =>
    match File.read? text with
    | some f => .ok ⟨unitName file, moduleOfFile (shown file), f⟩
    | none => .error (.unparsable (unitName file))

/-- The file at a place holds a text that can be read as source. -/
def IsSource (d : Disk) (q : List String) : Prop :=
  ∃ text f, d.textAt q = .ok text ∧ File.read? text = some f

/-- A unit is named by the path of its file, and stands for the module of the file. -/
structure IsUnit (d : Disk) (start file : List String) (u : SourceUnit) : Prop where
  name : u.name = shown file
  module : ∀ dirs stem, file = dirs ++ [stem ++ ".rs"] → u.module = moduleAt dirs stem
  text : ∃ text, d.textAt (start ++ file) = .ok text ∧ File.read? text = some u.file

/-- Why a file is refused: it holds no text, or a text that is no source. -/
inductive Refuses (d : Disk) (dir : String) (start file : List String) : GenerationError → Prop where
  | bytes {bs : List Nat} (h : d.contentAt (start ++ file) = .ok (.bytes bs)) :
      Refuses d dir start file (.unreadable (file.foldl joinPaths dir) .invalidData)
  | unparsable {text : String} (h : d.textAt (start ++ file) = .ok text) (hread : File.read? text = none) :
      Refuses d dir start file (.unparsable (shown file))

theorem name_readUnit (h : d.readUnit dir start file = .ok u) : u.name = unitName file := by
  unfold readUnit at h
  split at h
  · cases h
  · split at h
    · cases h
      rfl
    · cases h

theorem exists_readUnit : (∃ u, d.readUnit dir start file = .ok u) ↔ d.IsSource (start ++ file) := by
  unfold readUnit IsSource
  cases d.textAt (start ++ file) with
  | error e => simp
  | ok text => cases hread : File.read? text <;> simp [hread]

theorem textAt_error {q : List String} {cause : FileError} (hhas : d.HasFile q) :
    d.textAt q = .error cause ↔ cause = .invalidData ∧ ∃ bs, d.contentAt q = .ok (.bytes bs) := by
  obtain ⟨content, hcontent⟩ := hasFile_iff.1 hhas
  unfold textAt
  rw [hcontent]
  cases content with
  | text s => simp
  | bytes bs => simp [eq_comm]

section

variable (hnames : ∀ n ∈ file, IsPlainName n ∧ '\\' ∉ n.toList)

include hnames

theorem readUnit_ok (hfile : IsSourcePath file) :
    d.readUnit dir start file = .ok u ↔ d.IsUnit start file u := by
  have hname : unitName file = shown file := unitName_eq fun n hn => (hnames n hn).2
  obtain ⟨dirs, stem, -, rfl⟩ := hfile
  have hmodule := moduleOfFile_shown fun n hn => (hnames n hn).1
  unfold readUnit
  rw [hname, hmodule]
  constructor
  · intro h
    split at h
    · cases h
    · rename_i text htext
      split at h
      · rename_i f hread
        cases h
        refine ⟨rfl, fun dirs' stem' heq => ?_, text, htext, hread⟩
        obtain ⟨rfl, hlast⟩ := List.append_singleton_inj.1 heq
        rw [(String.append_left_inj ".rs").1 hlast]
      · cases h
  · rintro ⟨huname, humodule, text, htext, hread⟩
    rw [htext]
    dsimp only
    rw [hread]
    obtain ⟨name, module, f⟩ := u
    dsimp only at huname humodule
    rw [huname, humodule dirs stem rfl]

theorem readUnit_error (hhas : d.HasFile (start ++ file)) :
    d.readUnit dir start file = .error e ↔ d.Refuses dir start file e := by
  have hname : unitName file = shown file := unitName_eq fun n hn => (hnames n hn).2
  unfold readUnit
  rw [hname]
  constructor
  · intro h
    split at h
    · rename_i cause htext
      cases h
      obtain ⟨rfl, bs, hbytes⟩ := (textAt_error hhas).1 htext
      exact .bytes hbytes
    · rename_i text htext
      split at h
      · cases h
      · rename_i hread
        cases h
        exact .unparsable htext hread
  · intro h
    cases h with
    | bytes hbytes => rw [(textAt_error hhas).2 ⟨rfl, _, hbytes⟩]
    | unparsable htext hread =>
      rw [htext]
      dsimp only
      rw [hread]

end

end Disk

namespace Crate

variable {c : Crate} {d d' : Disk} {name dir : String} {start file : List String}
  {files : List (List String)}

/-! ## All files -/

theorem addFile_eq (hfree : c.contains (unitName file) = false) :
    c.addFile d dir (start ++ file) file =
      (d.readUnit dir start file).map fun u => { c with units := c.units ++ [u] } := by
  unfold addFile Disk.readUnit
  cases d.textAt (start ++ file) with
  | error e => rfl
  | ok text =>
    dsimp only
    unfold add
    rw [hfree]
    cases File.read? text <;> rfl

/-- Files whose units have different names, none of them taken, are added like the list of their units. -/
theorem foldlM_addFile (hfree : ∀ file ∈ files, c.contains (unitName file) = false)
    (hdistinct : (files.map unitName).Nodup) :
    files.foldlM (fun c file => c.addFile d dir (start ++ file) file) c =
      (files.mapM (d.readUnit dir start)).map fun us => { c with units := c.units ++ us } := by
  induction files generalizing c with
  | nil =>
    show Except.ok c = Except.ok { c with units := c.units ++ [] }
    rw [List.append_nil]
  | cons file files ih =>
    obtain ⟨hfile, hfiles⟩ := List.forall_mem_cons.1 hfree
    obtain ⟨hnew, hdistinct⟩ := List.nodup_cons.1 hdistinct
    rw [List.foldlM_cons, List.mapM_cons, addFile_eq hfile]
    cases hread : d.readUnit dir start file with
    | error e => rfl
    | ok u =>
      have hstill : ∀ f ∈ files,
          ({ c with units := c.units ++ [u] } : Crate).contains (unitName f) = false := by
        intro f hf
        have hne : unitName file ≠ unitName f := fun heq => hnew (heq ▸ List.mem_map_of_mem hf)
        have hold := hfiles f hf
        unfold contains at hold ⊢
        rw [List.any_append, hold]
        simpa [Disk.name_readUnit hread] using hne
      show files.foldlM _ _ = _
      rw [ih hstill hdistinct]
      cases files.mapM (d.readUnit dir start) with
      | error e => rfl
      | ok us => exact congrArg (fun us => Except.ok (⟨c.name, us⟩ : Crate)) (List.append_assoc ..)

/-- Loading depends on the disk only in where paths lead, which files there are, and what they hold. -/
theorem load_of_alike (h : d.Alike d') (hd : d.Proper) (hd' : d'.Proper)
    (hfile : ∀ (c : Crate) (place file : List String),
      c.addFile d' dir place file = c.addFile d dir place file) :
    load d' name dir = load d name dir := by
  have hsources : ∀ start, d'.sourcesBelow start = d.sourcesBelow start := by
    intro start
    unfold Disk.sourcesBelow
    rw [h.filesBelow hd hd']
  unfold load
  simp only [h.locate, hsources, hfile]
  cases d.locate dir with
  | error e => rfl
  | ok start =>
    rcases h.node_cases start with ⟨hd, hd'⟩ | ⟨hd, hd'⟩ | ⟨_, _, _, _, hd, hd'⟩
    all_goals simp only [hd, hd']

theorem load_perm (hd : d.Proper) {nodes : List (List String × DiskNode)} (hperm : nodes.Perm d.nodes) :
    load { d with nodes } name dir = load d name dir := by
  refine load_of_alike (hd.alike_of_perm hperm) hd (hd.perm hperm) fun c place file => ?_
  unfold addFile Disk.textAt Disk.contentAt
  rw [hd.node?_perm hperm]

section

variable (hd : d.IsTree start)

include hd

/-- What is known of the source files of a tree, one by one. -/
theorem sourceFiles_names : ∀ file ∈ d.sourceFiles start, IsSourcePath file ∧ d.HasFile (start ++ file) ∧
    ∀ n ∈ file, IsPlainName n ∧ '\\' ∉ n.toList := by
  intro file hfile
  obtain ⟨-, hhas, hsource⟩ := hd.mem_sourceFiles.1 hfile
  exact ⟨hsource, hhas, fun n hn => hd.names_of_hasFile hhas n hn⟩

theorem nodup_unitNames : ((d.sourceFiles start).map unitName).Nodup := by
  have hfiles := sourceFiles_names hd
  have hshown : ∀ file ∈ d.sourceFiles start, unitName file = Disk.shown file :=
    fun file hfile => unitName_eq fun n hn => ((hfiles file hfile).2.2 n hn).2
  refine List.Nodup.map_on ?_ ((hd.pairwise_sourceFiles).imp fun h => h.ne)
  intro file hfile file' hfile' heq
  rw [hshown file hfile, hshown file' hfile'] at heq
  exact shown_inj (fun n hn => ((hfiles file hfile).2.2 n hn).1)
    (fun n hn => ((hfiles file' hfile').2.2 n hn).1) heq

theorem load_eq (hname : name ≠ "") (hlocate : d.locate dir = .ok start) : load d name dir =
    ((d.sourceFiles start).mapM (d.readUnit dir start)).map fun us => ⟨name, us⟩ := by
  have hcreate : create name = .ok ⟨name, []⟩ := by
    unfold create
    rw [if_neg (by simpa using hname)]
  have hplaces : (d.sourcesBelow start).foldlM
      (fun c p => c.addFile d dir p (p.drop start.length)) (⟨name, []⟩ : Crate) =
      (d.sourceFiles start).foldlM (fun c file => c.addFile d dir (start ++ file) file) ⟨name, []⟩ := by
    rw [Disk.sourcesBelow_eq, List.foldlM_map]
    simp only [List.drop_left]
  unfold load
  rw [hcreate, hlocate]
  dsimp only [bind, Except.bind]
  rw [hd.root]
  exact hplaces.trans (foldlM_addFile (fun _ _ => rfl) (nodup_unitNames hd))

theorem load_ok_iff (hname : name ≠ "") (hlocate : d.locate dir = .ok start) : load d name dir = .ok c ↔
    c.name = name ∧ (d.sourceFiles start).mapM (d.readUnit dir start) = .ok c.units := by
  rw [load_eq hd hname hlocate]
  cases (d.sourceFiles start).mapM (d.readUnit dir start) with
  | error e => simp [Except.map]
  | ok us =>
    constructor
    · rintro ⟨⟩
      exact ⟨rfl, rfl⟩
    · rintro ⟨rfl, heq⟩
      cases heq
      rfl

theorem load_error_iff {e : GenerationError} (hname : name ≠ "") (hlocate : d.locate dir = .ok start) :
    load d name dir = .error e ↔ (d.sourceFiles start).mapM (d.readUnit dir start) = .error e := by
  rw [load_eq hd hname hlocate]
  cases (d.sourceFiles start).mapM (d.readUnit dir start) <;> simp [Except.map]

theorem mapM_readUnit_ok {us : List SourceUnit} : (d.sourceFiles start).mapM (d.readUnit dir start) = .ok us ↔
    List.Forall₂ (d.IsUnit start) (d.sourceFiles start) us := by
  have hfiles := sourceFiles_names hd
  rw [mapM_ok_iff]
  constructor
  · intro h
    refine ((List.forall₂_and_left _ _).2 ⟨hfiles, h⟩).imp ?_
    rintro file u ⟨⟨hsource, -, hnames⟩, hread⟩
    exact (Disk.readUnit_ok hnames hsource).1 hread
  · intro h
    refine ((List.forall₂_and_left _ _).2 ⟨hfiles, h⟩).imp ?_
    rintro file u ⟨⟨hsource, -, hnames⟩, hunit⟩
    exact (Disk.readUnit_ok hnames hsource).2 hunit

theorem mapM_readUnit_error {e : GenerationError} :
    (d.sourceFiles start).mapM (d.readUnit dir start) = .error e ↔ ∃ before file after,
      d.sourceFiles start = before ++ file :: after ∧ (∀ f ∈ before, d.IsSource (start ++ f)) ∧
        d.Refuses dir start file e := by
  have hfiles := sourceFiles_names hd
  rw [mapM_error_iff]
  refine exists_congr fun before => exists_congr fun file => exists_congr fun after =>
    and_congr_right fun hsplit => and_congr ?_ ?_
  · exact forall₂_congr fun f _ => Disk.exists_readUnit
  · have hmem : file ∈ d.sourceFiles start := hsplit ▸ List.mem_append_right before List.mem_cons_self
    obtain ⟨-, hhas, hnames⟩ := hfiles file hmem
    exact Disk.readUnit_error hnames hhas

/-- No two units of a crate that is loaded have the same name. -/
theorem nodup_names {us : List SourceUnit}
    (h : (d.sourceFiles start).mapM (d.readUnit dir start) = .ok us) : (us.map (·.name)).Nodup := by
  have hnames : (d.sourceFiles start).map unitName = us.map (·.name) := by
    rw [← List.forall₂_eq_eq_eq, List.forall₂_map_left_iff, List.forall₂_map_right_iff]
    exact (mapM_ok_iff.1 h).imp fun file u hread => (Disk.name_readUnit hread).symm
  rw [← hnames]
  exact nodup_unitNames hd

end

/-- Loading a crate from a directory tree. The files that are taken are those that a walk finds, in the order
of their paths, however the disk lists them. The crate is loaded if all of them are source, and only then; it
has one unit for each, in their order, and no two of one name. Otherwise it fails as the first file does that
is no source. A module can stand in a file of its name or in `mod.rs` in a directory of its name. -/
theorem load_tree (hd : d.IsTree start) (hname : name ≠ "") (hlocate : d.locate dir = .ok start) :
    (∀ file, file ∈ d.sourceFiles start ↔
      d.Walked start (start ++ file) ∧ d.HasFile (start ++ file) ∧ Disk.IsSourcePath file) ∧
    (d.sourceFiles start).Pairwise (· < ·) ∧
    (∀ nodes, nodes.Perm d.nodes → load { d with nodes } name dir = load d name dir) ∧
    ((∃ c, load d name dir = .ok c) ↔ ∀ file ∈ d.sourceFiles start, d.IsSource (start ++ file)) ∧
    (∀ c, load d name dir = .ok c ↔
      c.name = name ∧ List.Forall₂ (d.IsUnit start) (d.sourceFiles start) c.units) ∧
    (∀ c, load d name dir = .ok c → (c.units.map (·.name)).Nodup) ∧
    (∀ e, load d name dir = .error e ↔ ∃ before file after,
      d.sourceFiles start = before ++ file :: after ∧ (∀ f ∈ before, d.IsSource (start ++ f)) ∧
        d.Refuses dir start file e) ∧
    ∀ dirs n, n ≠ "mod" → (dirs = [] → n ≠ "lib" ∧ n ≠ "main") →
      moduleAt dirs n = moduleAt (dirs ++ [n]) "mod" := by
  refine ⟨fun file => hd.mem_sourceFiles, hd.pairwise_sourceFiles,
    fun nodes => load_perm hd.proper, ?_, fun c => ?_, fun c hc => ?_, fun e => ?_,
    fun dirs n => moduleAt_mod⟩
  · have hunits : (∃ c, load d name dir = .ok c) ↔
        ∃ us, (d.sourceFiles start).mapM (d.readUnit dir start) = .ok us :=
      ⟨fun ⟨c, hc⟩ => ⟨c.units, ((load_ok_iff hd hname hlocate).1 hc).2⟩,
        fun ⟨us, hus⟩ => ⟨⟨name, us⟩, (load_ok_iff hd hname hlocate).2 ⟨rfl, hus⟩⟩⟩
    rw [hunits, exists_mapM_ok]
    exact forall₂_congr fun file _ => Disk.exists_readUnit
  · rw [load_ok_iff hd hname hlocate, mapM_readUnit_ok hd]
  · exact nodup_names hd ((load_ok_iff hd hname hlocate).1 hc).2
  · rw [load_error_iff hd hname hlocate, mapM_readUnit_error hd]

/-- A tree with a file that holds no text. In the order of the strings its path would come first. -/
def treeWithBytes : Disk where
  root := "w"
  nodes :=
    [(["s", "lib.rs"], .file (.text "fn") false), (["s", "a", "b.rs"], .file (.bytes [255]) false),
      (["s", "notes.txt"], .file (.text "") false), (["s", "a", "b", "mod.rs"], .file (.text "mod c;") false),
      (["s", "a", "b"], .directory), (["s", "a"], .directory), (["s"], .directory),
      (["\\"], .file (.text "") false)]

theorem load_treeWithBytes : treeWithBytes.IsTree ["s"] ∧ treeWithBytes.locate "w/s" = .ok ["s"] ∧
    treeWithBytes.sourceFiles ["s"] = [["a", "b", "mod.rs"], ["a", "b.rs"], ["lib.rs"]] ∧
    load treeWithBytes "c" "w/s" = .error (.unreadable "w/s/a/b.rs" .invalidData) := by
  have htree : treeWithBytes.IsTree ["s"] :=
    ⟨⟨by decide +kernel, by decide +kernel⟩, by decide +kernel, by decide +kernel, by decide +kernel⟩
  have hlocate : treeWithBytes.locate "w/s" = .ok ["s"] := toOption_eq_some (by decide +kernel)
  have hfiles : treeWithBytes.sourceFiles ["s"] = [["a", "b", "mod.rs"], ["a", "b.rs"], ["lib.rs"]] := by
    have hperm : (treeWithBytes.sourceFiles ["s"]).Perm [["a", "b", "mod.rs"], ["a", "b.rs"], ["lib.rs"]] :=
      (((List.mergeSort_perm _ _).filter _).map _).trans (by decide +kernel)
    exact hperm.eq_of_pairwise (fun _ _ _ _ h h' => absurd h' h.asymm) htree.pairwise_sourceFiles
      (by decide +kernel)
  have hsource : treeWithBytes.IsSource ["s", "a", "b", "mod.rs"] := by
    have hread : (Source.File.read? "mod c;").isSome = true := by decide +kernel
    obtain ⟨f, hread⟩ := Option.isSome_iff_exists.1 hread
    exact ⟨"mod c;", f, toOption_eq_some (by decide +kernel), hread⟩
  have hbytes : treeWithBytes.Refuses "w/s" ["s"] ["a", "b.rs"] (.unreadable "w/s/a/b.rs" .invalidData) := by
    have hcontent : treeWithBytes.contentAt (["s"] ++ ["a", "b.rs"]) = .ok (.bytes [255]) :=
      toOption_eq_some (by decide +kernel)
    have hpath : ["a", "b.rs"].foldl joinPaths "w/s" = "w/s/a/b.rs" := by decide +kernel
    rw [← hpath]
    exact .bytes hcontent
  obtain ⟨-, -, -, -, -, -, herror, -⟩ := load_tree htree (show "c" ≠ "" by decide) hlocate
  have hbefore : ∀ f ∈ [["a", "b", "mod.rs"]], treeWithBytes.IsSource (["s"] ++ f) :=
    List.forall_mem_singleton.2 hsource
  exact ⟨htree, hlocate, hfiles, (herror _).2 ⟨_, _, _, hfiles, hbefore, hbytes⟩⟩

end Crate

end DisplayGen
