import DisplayGen.Proofs.Extraction.Declared

/-!
# Extraction finds the marked structs

`Crate.markedSummaries` says what extraction is to give, without candidates: the declared structs in
source order that carry the marker, summarized. `summaries_eq_markedSummaries` says that it does,
for every crate that can be built and every marker.
-/

namespace DisplayGen

open Source

namespace DeclaredStruct

/-- One of the outer attributes has a path that names the marker in the struct's module. -/
def isMarked (d : DeclaredStruct) (s : Scope) (marker : Symbol) : Bool :=
  d.head.attributes.any fun a =>
    !a.inner && s.resolve d.module a.path.toWritten == some marker

/-- The names as written of the named fields with a bare `pub`, in order. -/
def publicFields (d : DeclaredStruct) : List String :=
  match d.head.fields with
  | .named fields => (fields.filter fun f => f.visibility = .everyone).map (·.name.written)
  | .positional | .unit => []

/-- What is generated for the struct, in the crate of the given name. -/
def summary (d : DeclaredStruct) (crateName : String) : Summary where
  namespaceName := Text.joinPath (crateName :: d.module)
  typeName := d.head.name.name
  memberNames := d.publicFields

end DeclaredStruct

namespace Crate

/-- The symbol of the marker with the given path: `crate` or the name of the crate, then segments at
which a struct is declared. -/
def markerSymbol? (c : Crate) (marker : String) : Option Symbol :=
  match Text.splitPath marker with
  | [] => none
  | root :: segments =>
    if (root = "crate" ∨ root = c.name) ∧ segments ∈ c.structs.map DeclaredStruct.path then
      some ⟨c.name, segments⟩
    else none

/-- The summaries of the declared structs that carry the marker, in source order. -/
def markedSummaries (c : Crate) (marker : String) : List Summary :=
  match c.markerSymbol? marker with
  | none => []
  | some m => (c.structs.filter fun d => d.isMarked c.scope m).map fun d => d.summary c.name

variable {c : Crate}

theorem structNamed?_eq (h : c.Built) (marker : String) :
    c.scope.structNamed? marker = c.markerSymbol? marker := by
  unfold Scope.structNamed? markerSymbol?
  cases Text.splitPath marker with
  | nil => rfl
  | cons root segments =>
    have hempty : (c.scope.structsAt segments).isEmpty = true ↔
        segments ∉ c.structs.map DeclaredStruct.path := by
      rw [h.structsAt]
      simp [List.filter_eq_nil_iff]
    have hname : c.scope.crateName = c.name := rfl
    by_cases hroot : root = "crate" ∨ root = c.name
    · by_cases hmem : segments ∈ c.structs.map DeclaredStruct.path
      · simp only [hname, Bool.or_eq_true, decide_eq_true_eq, hroot, hempty, hmem]
        rfl
      · simp only [hname, Bool.or_eq_true, decide_eq_true_eq, hroot, hempty, hmem]
        rfl
    · simp only [hname, Bool.or_eq_true, decide_eq_true_eq, hroot]
      rfl

/-- A declared struct, as a candidate, has the symbol of its path. -/
theorem symbol?_candidate (h : c.Built) {d : DeclaredStruct} (hd : d ∈ c.structs) (unit : String) :
    (d.candidate unit).symbol? c.scope = some ⟨c.scope.localSymbol d.path, d.module, d.head⟩ := by
  have hmem : (c.scope.structsAt d.path).contains d.head = true := by
    rw [h.structsAt, List.contains_iff_mem]
    exact List.mem_map.2 ⟨d, List.mem_filter.2 ⟨hd, by simp⟩, rfl⟩
  unfold Candidate.symbol?
  exact if_pos (by simpa [DeclaredStruct.candidate, DeclaredStruct.path] using hmem)

/-- The classes of a declared struct's attributes hold the marker if and only if it is marked. -/
theorem contains_attributeClasses (h : c.Built) {d : DeclaredStruct} (hd : d ∈ c.structs)
    (id marker : Symbol) :
    ((⟨id, d.module, d.head⟩ : TypeSymbol).attributeClasses c.scope).contains marker =
      d.isMarked c.scope marker := by
  rw [Bool.eq_iff_iff, List.contains_iff_mem]
  unfold TypeSymbol.attributeClasses DeclaredStruct.isMarked
  rw [List.mem_filterMap, List.any_eq_true]
  constructor
  · rintro ⟨a, ha, hresolve⟩
    exact ⟨a, ha, by simp [h.outer_attributes hd a ha, hresolve]⟩
  · rintro ⟨a, ha, hmarked⟩
    simp only [Bool.and_eq_true, beq_iff_eq] at hmarked
    exact ⟨a, ha, hmarked.2⟩

theorem summary_typeSymbol (d : DeclaredStruct) :
    (⟨c.scope.localSymbol d.path, d.module, d.head⟩ : TypeSymbol).summary = d.summary c.name := by
  unfold TypeSymbol.summary DeclaredStruct.summary
  congr 1
  unfold TypeSymbol.members DeclaredStruct.publicFields
  dsimp only
  cases d.head.fields with
  | named fields =>
    dsimp only
    rw [List.filter_map, List.map_map]
    rfl
  | positional => rfl
  | unit => rfl

/-- What a declared struct gives: its summary, if it carries the marker. -/
def markedSummary? (c : Crate) (marker : String) (d : DeclaredStruct) : Option Summary :=
  match c.markerSymbol? marker with
  | none => none
  | some m => if d.isMarked c.scope m then some (d.summary c.name) else none

theorem summary?_candidate (h : c.Built) {d : DeclaredStruct} (hd : d ∈ c.structs)
    (unit marker : String) :
    (d.candidate unit).summary? c.scope marker = c.markedSummary? marker d := by
  unfold Candidate.summary? markedSummary?
  rw [symbol?_candidate h hd, structNamed?_eq h]
  cases c.markerSymbol? marker with
  | none => rfl
  | some m =>
    dsimp only
    rw [contains_attributeClasses h hd, summary_typeSymbol]

/-- A struct without attributes gives nothing. -/
theorem markedSummary?_eq_none {marker : String} {d : DeclaredStruct} (hd : d.isTarget = false) :
    c.markedSummary? marker d = none := by
  have hnone : d.head.attributes = [] := by simpa [DeclaredStruct.isTarget] using hd
  unfold markedSummary?
  cases c.markerSymbol? marker with
  | none => rfl
  | some m => simp [DeclaredStruct.isMarked, hnone]

theorem summary?_inBlock {d : Candidate} {s : Scope} {marker : String} (hd : d.inBlock = true) :
    d.summary? s marker = none := by
  simp [Candidate.summary?, Candidate.symbol?, hd]

theorem summaries_unit (h : c.Built) {u : SourceUnit} (hu : u ∈ c.units) (marker : String) :
    u.candidates.filterMap (fun d => d.summary? c.scope marker) =
      u.structs.filterMap (c.markedSummary? marker) := by
  have hblock : u.candidates.filterMap (fun d => d.summary? c.scope marker) =
      (u.candidates.filter fun d => !d.inBlock).filterMap fun d => d.summary? c.scope marker := by
    rw [List.filterMap_filter]
    refine List.filterMap_congr fun d _ => ?_
    cases hd : d.inBlock with
    | false => rfl
    | true => exact summary?_inBlock hd
  rw [hblock, SourceUnit.filter_candidates (h.units_shaped u hu), List.filterMap_map,
    List.filterMap_filter]
  refine List.filterMap_congr fun d hd => ?_
  cases ht : d.isTarget with
  | false => exact (markedSummary?_eq_none ht).symm
  | true => exact summary?_candidate h (List.mem_flatMap.2 ⟨u, hu, hd⟩) u.name marker

theorem summaries_eq_filterMap (h : c.Built) (marker : String) :
    c.summaries marker = c.structs.filterMap (c.markedSummary? marker) := by
  unfold summaries candidates structs
  rw [List.filterMap_flatMap, List.filterMap_flatMap]
  exact List.flatMap_congr fun u hu => summaries_unit h hu marker

theorem markedSummaries_eq_filterMap (c : Crate) (marker : String) :
    c.markedSummaries marker = c.structs.filterMap (c.markedSummary? marker) := by
  unfold markedSummaries markedSummary?
  cases c.markerSymbol? marker with
  | none => simp
  | some m =>
    dsimp only
    rw [← List.filterMap_eq_map, List.filterMap_filter]
    rfl

/-- Extraction gives the summaries of the declared structs that carry the marker, in source order,
and no others. -/
theorem summaries_eq_markedSummaries (h : c.Built) (marker : String) :
    c.summaries marker = c.markedSummaries marker := by
  rw [summaries_eq_filterMap h, markedSummaries_eq_filterMap]

/-- A struct in an inline module, marked under another name. -/
theorem summaries_demo : ∃ c : Crate, c.Built ∧
    c.summaries "demo::M" = [⟨"demo::m", "Q", ["x", "r#y"]⟩] := by
  have hread : ((⟨"demo", []⟩ : Crate).add "lib.rs" [] ("struct M;" ++
      "mod m{use super::M as N;#[N]struct r#Q{pub x:u8,z:u8,pub r#y:u8}}")).toOption.map
      (·.markedSummaries "demo::M") = some [⟨"demo::m", "Q", ["x", "r#y"]⟩] := by decide +kernel
  obtain ⟨c, hadd, hmarked⟩ := Option.map_eq_some_iff.1 hread
  have hcreate : create "demo" = .ok ⟨"demo", []⟩ := rfl
  have hbuilt : c.Built := .add (.create hcreate) (toOption_eq_some hadd)
  exact ⟨c, hbuilt, (summaries_eq_markedSummaries hbuilt "demo::M").trans hmarked⟩

end Crate

end DisplayGen
