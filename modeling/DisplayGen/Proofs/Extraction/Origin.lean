import DisplayGen.Proofs.Marker
import DisplayGen.Proofs.ModulePath

/-!
# Where summaries come from

The summaries of a crate that was loaded, with a marker's definition added, are those of structs in its
source files, and perhaps of the marker itself: a marker named `derive` carries itself. Names in source
files have no slashes. The path of a marker may have some, since comments may stand around its segments;
then no struct of a source file can name it.

* `Crate.load_ok`: the modules of source files.
* `Crate.belongs_of_mem_summaries`: what the key of a summary looks like (`Summary.Belongs`).
-/

namespace DisplayGen

open Source

/-! ## Modules of declared structs -/

namespace Source.Tree

variable {P : String → Prop}

mutual

/-- What holds of the names of a module and of identifiers holds of the names of modules inside it. -/
theorem module_structsIn (hident : ∀ i : Ident, P i.name) (t : Tree) (module : List String)
    (h : ∀ n ∈ module, P n) : ∀ d ∈ structsIn module t, ∀ n ∈ d.module, P n := by
  unfold structsIn
  split
  · exact List.forall_mem_singleton.2 h
  · rename_i i _ _ _ _ items
    exact module_structsInAll hident items (module ++ [i.name])
      (List.forall_mem_append.2 ⟨h, List.forall_mem_singleton.2 (hident i)⟩)
  · intro d hd
    cases hd

theorem module_structsInAll (hident : ∀ i : Ident, P i.name) (ts : List Tree) (module : List String)
    (h : ∀ n ∈ module, P n) : ∀ d ∈ structsInAll module ts, ∀ n ∈ d.module, P n := by
  match ts with
  | [] => intro d hd; cases hd
  | t :: ts =>
    exact List.forall_mem_append.2
      ⟨module_structsIn hident t module h, module_structsInAll hident ts module h⟩

end

end Source.Tree

namespace Crate

variable {c : Crate}

theorem module_structs {P : String → Prop} (hident : ∀ i : Ident, P i.name)
    (hunits : ∀ u ∈ c.units, ∀ n ∈ u.module, P n) : ∀ d ∈ c.structs, ∀ n ∈ d.module, P n := by
  intro d hd
  obtain ⟨u, hu, hd⟩ := List.mem_flatMap.1 hd
  exact Tree.module_structsInAll hident u.file.items u.module (hunits u hu) d hd

/-- The modules of the units have no slashes in their names. -/
def FromFiles (c : Crate) : Prop := ∀ u ∈ c.units, ∀ n ∈ u.module, Unslashed n

/-- A crate that is loaded has the name that was asked for, and units for modules of files. -/
theorem load_ok {d : Disk} {name dir : String} (h : load d name dir = .ok c) :
    c.name = name ∧ c.FromFiles := by
  have hfile : ∀ (c : Crate) (place file : List String) (c' : Crate), c.name = name ∧ c.FromFiles →
      c.addFile d dir place file = .ok c' → c'.name = name ∧ c'.FromFiles := by
    rintro c place file c' ⟨hname, hunits⟩ hadd
    unfold addFile at hadd
    split at hadd
    · cases hadd
    · obtain ⟨-, f, -, rfl⟩ := add_ok hadd
      refine ⟨hname, List.forall_mem_append.2 ⟨hunits, List.forall_mem_singleton.2 ?_⟩⟩
      exact fun n => unslashed_moduleOfFile
  obtain ⟨c₀, hcreate, h⟩ := bind_ok h
  split at h
  · cases h
  · split at h
    · cases h
    · refine foldlM_ok (P := fun c => c.name = name ∧ c.FromFiles)
        (fun c p c' => hfile c p _ c') ?_ h
      unfold create at hcreate
      split at hcreate
      · cases hcreate
      · cases hcreate
        exact ⟨rfl, fun u hu => nomatch hu⟩

theorem FromFiles.module_structs (h : c.FromFiles) :
    ∀ d ∈ c.structs, ∀ n ∈ d.module, Unslashed n := Crate.module_structs Ident.unslashed h

/-- A summary is that of a declared struct that carries the marker. -/
theorem mem_summaries (h : c.Built) {marker : String} {s : Summary} (hs : s ∈ c.summaries marker) :
    ∃ m, c.markerSymbol? marker = some m ∧ ∃ d ∈ c.structs, d.isMarked c.scope m = true ∧
      d.summary c.name = s := by
  rw [summaries_eq_filterMap h, ← markedSummaries_eq_filterMap] at hs
  unfold markedSummaries at hs
  split at hs
  · cases hs
  · rename_i m hm
    obtain ⟨d, hd, heq⟩ := List.mem_map.1 hs
    obtain ⟨hd, hmarked⟩ := List.mem_filter.1 hd
    exact ⟨m, hm, d, hd, hmarked, heq⟩

/-- From a module without slashes, only symbols without slashes are named. -/
theorem unslashed_of_isMarked {d : DeclaredStruct} {m : Symbol} (hd : ∀ n ∈ d.module, Unslashed n)
    (hmarked : d.isMarked c.scope m = true) : ∀ n ∈ m.path, Unslashed n := by
  have hidents : ∀ {names : List String}, AreIdentNames names → ∀ n ∈ names, Unslashed n := by
    intro names hnames n hn
    obtain ⟨i, rfl⟩ := hnames n hn
    exact i.unslashed
  obtain ⟨a, -, hresolve⟩ := List.any_eq_true.1 hmarked
  rw [Bool.and_eq_true, beq_iff_eq] at hresolve
  refine Scope.resolve_names (fun d hd => hidents (c.scope_imports d hd)) hd (hidents ?_) hresolve.2
  intro n hn
  obtain ⟨i, -, hi⟩ := List.mem_map.1 hn
  exact ⟨i, hi⟩

end Crate

/-! ## Keys -/

namespace Summary

variable {s : Summary} {crateName : String} {m : Marker}

/-- The key is that of a type of the crate. It has no slashes if the marker's module has none; else it is
the key of the marker's own struct. -/
structure Belongs (crateName : String) (m : Marker) (s : Summary) : Prop where
  inCrate : ∃ module, s.namespaceName = Text.joinPath (crateName :: module)
  unslashed : (∀ n ∈ m.module, Unslashed n) → Unslashed s.key
  own : ¬ (∀ n ∈ m.module, Unslashed n) →
    s.key = key ⟨Text.joinPath (crateName :: m.module), m.name, []⟩

/-- The key of a type begins with the name of its crate. -/
theorem Belongs.key_eq (h : s.Belongs crateName m) (hcrate : Text.isWord crateName.toList = true) :
    ∃ t, s.key.toList = crateName.toList ++ '.' :: t := by
  have hcolon : ':' ∉ crateName.toList := Text.not_mem_of_isWord hcrate
  have hpoint : ".".toList = ['.'] := rfl
  obtain ⟨module, hmodule⟩ := h.inCrate
  unfold key Text.dotted
  rw [hmodule, String.toList_append, String.toList_append, String.toList_ofList, hpoint]
  unfold Text.joinPath
  cases module with
  | nil =>
    refine ⟨s.typeName.toList, ?_⟩
    have hdots := Text.dotColons_append hcolon []
    rw [List.append_nil] at hdots
    rw [Text.joinWith, hdots]
    simp [Text.dotColons]
  | cons n module =>
    have hcolons : "::".toList = [':', ':'] := rfl
    refine ⟨Text.dotColons (Text.joinWith "::" (n :: module)).toList ++ '.' :: s.typeName.toList, ?_⟩
    rw [Text.joinWith, String.toList_append, String.toList_append, hcolons,
      List.append_assoc crateName.toList, Text.dotColons_append hcolon]
    simp [Text.dotColons]

end Summary

namespace DeclaredStruct

theorem unslashed_key {d : DeclaredStruct} {crateName : String} (hcrate : Unslashed crateName)
    (hd : ∀ n ∈ d.module, Unslashed n) : Unslashed (d.summary crateName).key := by
  have hnamespace : Unslashed (Text.joinPath (crateName :: d.module)) :=
    Text.unslashed_joinPath (List.forall_mem_cons.2 ⟨hcrate, hd⟩)
  exact ((Text.unslashed_dotted hnamespace).append (by unfold Unslashed; decide)).append
    d.head.name.unslashed

end DeclaredStruct

namespace Crate

variable {c : Crate} {path : String} {m : Marker} {i : Ident} {s : Summary}

theorem structs_definedIn (m : Marker) (i : Ident) (c : Crate) :
    (m.definedIn i c).structs = c.structs ++ [⟨m.module, Marker.structHead i⟩] :=
  List.flatMap_append

/-- The summaries of a crate with a marker's definition belong to it. -/
theorem belongs_of_mem_summaries (hparse : Marker.parse path = .ok m) (hi : i.written = m.name)
    (hc : (m.definedIn i c).Built) (hunits : c.FromFiles) (hname : Text.isWord c.name.toList = true)
    (hs : s ∈ (m.definedIn i c).summaries path) : s.Belongs c.name m := by
  obtain ⟨symbol, hsymbol, d, hd, hmarked, rfl⟩ := mem_summaries hc hs
  rw [← structNamed?_eq hc] at hsymbol
  have hfound : ((m.definedIn i c).scope.structNamed? path).isSome := by
    rw [hsymbol]
    rfl
  have hword := (Marker.structNamed?_definition hparse hi hc).1 hfound
  have hpath := Marker.eq_some_of_structNamed? hparse hc hfound
  rw [hsymbol] at hpath
  rw [structs_definedIn] at hd
  rcases List.mem_append.1 hd with hd | hd
  · have hmodule := hunits.module_structs d hd
    refine ⟨⟨d.module, rfl⟩, fun _ => d.unslashed_key (unslashed_of_isWord hname) hmodule,
      fun hslash => absurd ?_ hslash⟩
    have hsegments := unslashed_of_isMarked hmodule hmarked
    rw [Option.some.inj hpath] at hsegments
    exact fun n hn => hsegments n (List.mem_append_left _ hn)
  · rw [List.mem_singleton.1 hd]
    have hunslashed := fun hmodule : ∀ n ∈ m.module, Unslashed n =>
      DeclaredStruct.unslashed_key (d := ⟨m.module, Marker.structHead i⟩) (unslashed_of_isWord hname)
        hmodule
    refine ⟨⟨m.module, rfl⟩, hunslashed, fun _ => ?_⟩
    have hplain : i.name = m.name := by
      rw [← hi] at hword ⊢
      exact ((Marker.isWord_written i).1 hword).symm
    rw [← hplain]
    rfl

end Crate

end DisplayGen
