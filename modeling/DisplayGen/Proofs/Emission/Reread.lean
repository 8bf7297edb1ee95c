import DisplayGen.Proofs.Crate
import DisplayGen.Proofs.Emission.Names
import DisplayGen.Proofs.Emission.Tree

/-!
# Generated code is read back

`Crate.addArtifact_emit`: whatever emission gives for a summary, a crate that has no unit of its name takes
it in. The new unit holds one item, and the item says what the summary does: it is `implementationTree`,
whose macro call has the tokens `writeArguments`. No layout of the code makes a difference, and no character
in a name.
-/

namespace DisplayGen

open Source DisplayCode

theorem DisplayCode.ofSummary_ok {s : Summary} {code : DisplayCode} (h : ofSummary s = .ok code) :
    code.type.IsNamed s.typeName ∧ code.type.isName = true ∧
      code.format = (Template.ofSummary s).formatString ∧
      List.Forall₂ Ident.IsNamed code.fields s.memberNames := by
  obtain ⟨type, htype, h⟩ := bind_ok h
  obtain ⟨fields, hfields, h⟩ := bind_ok h
  cases h
  obtain ⟨hnamed, hname⟩ := identFor_ok htype
  refine ⟨hnamed, hname, rfl, ?_⟩
  exact (mapM_ok_iff.1 hfields).flip.imp fun i name hi => (identFor_ok hi).1

/-- What was rendered is a source file. -/
theorem Generated.Rendered.reads {extension : String} {x : Generated} (h : x.Rendered extension) :
    File.read? x.artifact.text ≠ none := by
  obtain ⟨count, code, hcode, heq⟩ := h
  rw [heq, DisplayCode.read?_artifactText count (DisplayCode.ofSummary_ok hcode).2.1]
  exact Option.some_ne_none _

namespace Crate

variable {c : Crate} {extension : String} {tally tally' : Tally} {s : Summary} {a : Artifact}

theorem addArtifact_rendered (count : Nat) (code : DisplayCode) (hnew : c.contains a.name = false)
    (htext : a.text = artifactText count code) (hname : code.type.isName = true) :
    c.addArtifact a = .ok { c with units := c.units ++ [⟨a.name, a.module, ⟨[],
      [implementationTree code.type (writeArguments code.formatLiteral code.fields)]⟩⟩] } := by
  exact add_of_read hnew (by rw [htext]; exact read?_artifactText count hname) a.module

/-- A crate takes in what was emitted, as the implementation of `::core::fmt::Display` for the type, in which
one call writes the format string with the fields in their order. -/
theorem addArtifact_emit (h : emit extension tally s = .ok (a, tally')) (hnew : c.contains a.name = false) :
    ∃ (type : Ident) (literal : Literal) (fields : List Ident),
      c.addArtifact a = .ok { c with units := c.units ++ [⟨a.name, a.module, ⟨[],
        [implementationTree type (writeArguments literal fields)]⟩⟩] } ∧
      type.IsNamed s.typeName ∧
      (literal.kind = .string ∧ literal.value? = some (Template.ofSummary s).formatString.toList) ∧
      List.Forall₂ Ident.IsNamed fields s.memberNames := by
  obtain ⟨code, hcode, rfl, -⟩ := emit_ok h
  obtain ⟨hnamed, hname, hformat, hfields⟩ := ofSummary_ok hcode
  refine ⟨code.type, code.formatLiteral, code.fields, ?_, hnamed, ⟨rfl, ?_⟩, hfields⟩
  · exact addArtifact_rendered _ code hnew rfl hname
  · rw [← hformat]
    exact value?_quoteLiteral code.format.toList

/-- A type with a field whose name is reserved. -/
def userSummary : Summary := ⟨"app::models", "User", ["id", "type"]⟩

/-- The code for it. -/
def userCode : DisplayCode :=
  ⟨.plain "User", "id:\x7b\x7d; type:\x7b\x7d", [.plain "id", ⟨true, "type", by decide⟩]⟩

/-- The first file that is generated for it. -/
def userArtifact : Artifact := ⟨"app.models.User.g.rs", ["models"], artifactText 1 userCode⟩

theorem emit_user :
    emit "rs" .empty userSummary = .ok (userArtifact, Tally.empty.increment "app.models.User") := by
  have hcode : ofSummary userSummary = .ok userCode := toOption_eq_some (by decide +kernel)
  rw [emit_eq, hcode]
  rfl

theorem addArtifact_emit_user :
    (emit "rs" .empty userSummary = .ok (userArtifact, Tally.empty.increment "app.models.User") ∧
      (Crate.mk "app" []).contains userArtifact.name = false) ∧
    ∃ (type : Ident) (literal : Literal) (fields : List Ident),
      (Crate.mk "app" []).addArtifact userArtifact = .ok ⟨"app", [⟨userArtifact.name, userArtifact.module,
        ⟨[], [implementationTree type (writeArguments literal fields)]⟩⟩]⟩ ∧
      type.IsNamed "User" ∧
      (literal.kind = .string ∧
        literal.value? = some (Template.ofSummary userSummary).formatString.toList) ∧
      List.Forall₂ Ident.IsNamed fields ["id", "type"] :=
  ⟨⟨emit_user, rfl⟩, addArtifact_emit emit_user rfl⟩

/-- The code for a type whose name is given as `r#r#x`. -/
def twiceRawCode : DisplayCode := ⟨⟨true, "x", by decide⟩, "", []⟩

/-- The first file that is generated for it. -/
def twiceRawArtifact : Artifact := ⟨"app.r#r#x.g.rs", [], artifactText 1 twiceRawCode⟩

/-- A name that is spelled raw behind its `r#` is written raw, although no word in it is reserved. -/
theorem addArtifact_emit_twiceRaw :
    emit "rs" .empty ⟨"app", "r#r#x", []⟩ = .ok (twiceRawArtifact, Tally.empty.increment "app.r#r#x") ∧
    (Crate.mk "app" []).contains twiceRawArtifact.name = false ∧
    (Crate.mk "app" []).addArtifact twiceRawArtifact = .ok ⟨"app", [⟨"app.r#r#x.g.rs", [], ⟨[],
      [implementationTree twiceRawCode.type (writeArguments twiceRawCode.formatLiteral [])]⟩⟩]⟩ ∧
    twiceRawCode.type.raw = true ∧ ∀ name ∈ ["r#r#x", "r#x", "x"], name ∉ reservedWords := by
  have hcode : ofSummary ⟨"app", "r#r#x", []⟩ = .ok twiceRawCode := toOption_eq_some (by decide +kernel)
  refine ⟨?_, rfl, addArtifact_rendered 1 twiceRawCode rfl rfl rfl, rfl, by decide⟩
  rw [emit_eq, hcode]
  rfl

end Crate

end DisplayGen
