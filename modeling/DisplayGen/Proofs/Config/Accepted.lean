import DisplayGen.Config
import DisplayGen.Generator
import DisplayGen.Proofs.Emission.Names
import DisplayGen.Proofs.Generator.History
import DisplayGen.Proofs.Marker

/-!
# Configurations that are accepted

The path of a marker is checked twice. A configuration is refused if a segment of it is blank, and no generator
is made if a segment is no name. So a configuration that is accepted may still be one that nothing can be run
with.

* `Config.checkMarkerPath_of_parse`: what can be taken apart as the path of a marker passes the check of
  configurations.
* `Config.create_of_validate`: which of the configurations that pass their check a generator is made for.
-/

namespace DisplayGen

open Source

namespace Source

/-- The text holds one identifier that can name something, and nothing else but blanks and comments. -/
def HoldsName (text : String) : Prop :=
  ∃ i : Ident, TokenTree.scan? text.toList = some [.ident i] ∧ i.isName = true

theorem holdsName_iff {text : String} : HoldsName text ↔ (Ident.read? text).isSome := by
  simp only [HoldsName, Option.isSome_iff_exists, Ident.read?_eq_some]

namespace Lexer

/-- Blanks give no tokens. -/
theorem runs_blank {cs : List Char} (h : ∀ c ∈ cs, Text.isSpace c = true) : Runs cs [] [] := by
  induction cs with
  | nil => exact .done
  | cons c r ih =>
    obtain ⟨hc, hr⟩ := List.forall_mem_cons.1 h
    have htrivia : afterTrivia? (c :: r) = some r := by
      have hslash : Text.isSpace '/' = false := by decide
      have hspace : Text.isTokenSpace c = true := by simp [Text.isTokenSpace, hc]
      unfold afterTrivia?
      split
      case h_10 d s heq =>
        cases heq
        exact if_pos hspace
      case h_11 heq => cases heq
      -- no comment begins with a blank
      all_goals
        rename_i heq
        obtain ⟨rfl, -⟩ := List.cons.inj heq
        rw [hslash] at hc
        cases hc
    refine .trivia ?_ (ih hr)
    unfold step?
    rw [htrivia]

end Lexer

theorem HoldsName.not_blank {text : String} (h : HoldsName text) : Config.isBlank text = false := by
  obtain ⟨i, hscan, -⟩ := h
  by_contra hblank
  have hspaces : ∀ c ∈ text.toList, Text.isSpace c = true := by simpa [Config.isBlank] using hblank
  have hnone : Token.scan? text.toList = some [] := by
    cases hcs : text.toList with
    | nil => rfl
    | cons c r =>
      rw [hcs] at hspaces
      refine Token.scan?_of_runs ?_ (Lexer.runs_blank hspaces)
      rintro rfl
      exact absurd (hspaces _ List.mem_cons_self) (by decide)
  unfold TokenTree.scan? at hscan
  rw [hnone] at hscan
  cases hscan

end Source

namespace Marker

variable {path : String}

theorem isNone_read? (text : String) : (Ident.read? text).isNone = true ↔ ¬ HoldsName text := by
  rw [holdsName_iff]
  cases Ident.read? text with
  | none => simp
  | some i => simp

/-- A path with names for segments is taken apart. -/
theorem parse_of_names {segments : List String} (hsplit : Text.splitPath path = "crate" :: segments)
    (hne : segments ≠ []) (hnames : ∀ t ∈ segments, HoldsName t) : ∃ m, parse path = .ok m := by
  have hgood : badSegment? segments = none :=
    List.find?_eq_none.2 fun t ht => by rw [isNone_read?, not_not]; exact hnames t ht
  unfold parse
  rw [hsplit]
  simp only [hgood, List.getLast?_eq_some_getLast hne]
  exact ⟨_, rfl⟩

/-- Of a path, the first segment that is no name is reported. -/
theorem parse_of_not_name {before after : List String} {t : String}
    (hsplit : Text.splitPath path = "crate" :: (before ++ t :: after))
    (hbefore : ∀ u ∈ before, HoldsName u) (ht : ¬ HoldsName t) :
    parse path = .error (.invalidMarkerPath path s!"'{t}' is not an identifier") := by
  have hbad : badSegment? (before ++ t :: after) = some t := by
    refine List.find?_eq_some_iff_append.2 ⟨(isNone_read? t).2 ht, before, after, rfl, fun u hu => ?_⟩
    rw [Bool.not_eq_true', Bool.eq_false_iff, Ne, isNone_read?, not_not]
    exact hbefore u hu
  unfold parse
  rw [hsplit]
  simp only [hbad]

end Marker

namespace Config

variable {c : Config} {path : String}

theorem checkMarkerPath_ok_iff : checkMarkerPath path = .ok () ↔
    ∃ segments, Text.splitPath path = "crate" :: segments ∧ segments ≠ [] ∧
      ∀ t ∈ segments, isBlank t = false := by
  unfold checkMarkerPath
  split
  · rename_i s ss hsplit
    rw [hsplit]
    constructor
    · intro h
      split at h
      · cases h
      · rename_i hblank
        exact ⟨_, rfl, List.cons_ne_nil s ss, by simpa using hblank⟩
    · rintro ⟨segments, heq, -, hblank⟩
      cases heq
      exact if_neg (by simpa using hblank)
  · rename_i hother
    refine iff_of_false nofun ?_
    rintro ⟨segments, hsplit, hne, -⟩
    obtain ⟨s, ss, rfl⟩ := List.exists_cons_of_ne_nil hne
    exact hother s ss hsplit

/-- A path that can be taken apart has no blank segments. -/
theorem checkMarkerPath_of_parse {m : Marker} (h : Marker.parse path = .ok m) :
    checkMarkerPath path = .ok () := by
  obtain ⟨-, hsplit, hread⟩ := Marker.parse_ok h
  refine checkMarkerPath_ok_iff.2 ⟨_, hsplit, List.append_ne_nil_of_right_ne_nil _ (List.cons_ne_nil _ _),
    fun t ht => HoldsName.not_blank ?_⟩
  exact holdsName_iff.2 (Option.isSome_iff_ne_none.2 (hread t ht))

/-- In a configuration that can be used, the path of the marker may be any that passes its own check. -/
theorem validate_markerPath (h : c.validate = .ok ()) (hpath : checkMarkerPath path = .ok ()) :
    ({ c with markerPath := path } : Config).validate = .ok () := by
  obtain ⟨_, -, hrest⟩ := bind_ok h
  refine Eq.trans (b := checkMarkerPath path >>= _) rfl ?_
  rw [hpath]
  exact hrest

/-- A configuration that passes its check has a path for its marker with segments that are not blank, and a
generator is made for it exactly if they are names; else the first that is none is reported. A path for which
a generator is made passes the check, whatever the configuration. -/
theorem create_of_validate (h : c.validate = .ok ()) :
    (∃ segments, Text.splitPath c.markerPath = "crate" :: segments ∧
      ((∃ g, Generator.create c.markerPath c.artifactExtension = .ok g) ↔ ∀ t ∈ segments, HoldsName t) ∧
      ∀ before t after, segments = before ++ t :: after → (∀ u ∈ before, HoldsName u) → ¬ HoldsName t →
        Generator.create c.markerPath c.artifactExtension =
          .error (.invalidMarkerPath c.markerPath s!"'{t}' is not an identifier")) ∧
    ∀ path extension g, Generator.create path extension = .ok g →
      ({ c with markerPath := path } : Config).validate = .ok () := by
  refine ⟨?_, fun path extension g hcreate => ?_⟩
  · obtain ⟨_, hmarker, -⟩ := bind_ok h
    obtain ⟨segments, hsplit, hne, -⟩ := checkMarkerPath_ok_iff.1 hmarker
    refine ⟨segments, hsplit, ⟨?_, fun hnames => ?_⟩, ?_⟩
    · rintro ⟨g, hcreate⟩ t ht
      obtain ⟨-, hsplit', hread⟩ := Marker.parse_ok (Generator.create_ok hcreate).1
      rw [hsplit, List.cons_inj_right] at hsplit'
      exact holdsName_iff.2 (Option.isSome_iff_ne_none.2 (hread t (hsplit' ▸ ht)))
    · obtain ⟨m, hparse⟩ := Marker.parse_of_names hsplit hne hnames
      unfold Generator.create
      rw [hparse]
      exact ⟨_, rfl⟩
    · rintro before t after rfl hbefore ht
      unfold Generator.create
      rw [Marker.parse_of_not_name hsplit hbefore ht]
      rfl
  · obtain ⟨m, hparse, -⟩ := bind_ok hcreate
    exact validate_markerPath h (checkMarkerPath_of_parse hparse)

/-- Two configurations that pass their check. The segments of the one are names with a comment and blanks around
them, and of the other, two are none. -/
theorem create_of_validate_digit :
    (({ default with markerPath := "crate::/*m*/strgen :: r#type" } : Config).validate = .ok () ∧
      ∃ g, Generator.create "crate::/*m*/strgen :: r#type" "rs" = .ok g) ∧
    ({ default with markerPath := "crate::a::1B::fn" } : Config).validate = .ok () ∧
      Generator.create "crate::a::1B::fn" "rs" =
        .error (.invalidMarkerPath "crate::a::1B::fn" "'1B' is not an identifier") := by
  have hnames : ({ default with markerPath := "crate::/*m*/strgen :: r#type" } : Config).validate = .ok () := by
    decide +kernel
  have hdigit : ({ default with markerPath := "crate::a::1B::fn" } : Config).validate = .ok () := by
    decide +kernel
  refine ⟨⟨hnames, ?_⟩, hdigit, ?_⟩
  · obtain ⟨⟨segments, hsplit, hmade, -⟩, -⟩ := create_of_validate hnames
    have hpieces : Text.splitPath "crate::/*m*/strgen :: r#type" = ["crate", "/*m*/strgen ", " r#type"] := by
      decide +kernel
    obtain rfl := (List.cons.inj (hsplit.symm.trans hpieces)).2
    refine hmade.2 fun t ht => holdsName_iff.2 ?_
    have hread : ∀ t ∈ ["/*m*/strgen ", " r#type"], (Ident.read? t).isSome := by decide +kernel
    exact hread t ht
  · obtain ⟨⟨segments, hsplit, -, hrefused⟩, -⟩ := create_of_validate hdigit
    have hpieces : Text.splitPath "crate::a::1B::fn" = ["crate", "a", "1B", "fn"] := by decide +kernel
    obtain rfl := (List.cons.inj (hsplit.symm.trans hpieces)).2
    refine hrefused ["a"] "1B" ["fn"] rfl ?_ ?_
    · rw [List.forall_mem_singleton, holdsName_iff]
      decide +kernel
    · rw [holdsName_iff]
      decide +kernel

end Config

end DisplayGen
