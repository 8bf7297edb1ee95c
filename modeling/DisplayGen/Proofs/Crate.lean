import DisplayGen.Crate.Stored
import DisplayGen.Proofs.Except
import DisplayGen.Proofs.Source.File

/-!
# Crates that can be built

`Crate.Built c`: `c` is made by `Crate.create` and `Crate.add` alone, as every crate is that a
program gets hold of. Its units are files that were read, so they have the shape of files.
-/

namespace DisplayGen

namespace Crate

/-- The crate is made by `create` and a sequence of `add`. -/
inductive Built : Crate → Prop where
  | create {name : String} {c : Crate} (h : create name = .ok c) : Built c
  | add {c c' : Crate} {name : String} {module : List String} {text : String} (hc : Built c)
      (h : c.add name module text = .ok c') : Built c'

/-- What a successful `add` does: the name is free, the text is a file, and it is the last unit of
the new crate. -/
theorem add_ok {c c' : Crate} {name : String} {module : List String} {text : String}
    (h : c.add name module text = .ok c') :
    c.contains name = false ∧ ∃ file, Source.File.read? text = some file ∧
      c' = { c with units := c.units ++ [⟨name, module, file⟩] } := by
  unfold add at h
  split at h
  · cases h
  · rename_i hfree
    split at h
    · rename_i file hread
      cases h
      exact ⟨by simpa using hfree, file, hread, rfl⟩
    · cases h

/-- Where an `add` fails: the name is taken, or the text is no file. -/
theorem add_failed {c : Crate} {name : String} {module : List String} {text : String}
    {e : GenerationError} (h : c.add name module text = .error e) :
    e = .nameCollision name ∧ c.contains name = true ∨
      e = .unparsable name ∧ Source.File.read? text = none := by
  unfold add at h
  split at h
  · rename_i htaken
    cases h
    exact .inl ⟨rfl, htaken⟩
  · split at h
    · cases h
    · rename_i hread
      cases h
      exact .inr ⟨rfl, hread⟩

theorem add_of_read {c : Crate} {name text : String} {file : Source.File}
    (hfree : c.contains name = false) (hread : Source.File.read? text = some file) (module : List String) :
    c.add name module text = .ok { c with units := c.units ++ [⟨name, module, file⟩] } := by
  unfold add
  rw [hfree, hread]
  rfl

theorem contains_add {c c' : Crate} {name : String} {module : List String} {text : String}
    (h : c.add name module text = .ok c') (n : String) :
    c'.contains n = (c.contains n || name == n) := by
  obtain ⟨-, file, -, rfl⟩ := add_ok h
  simp [contains]

namespace Built

variable {c : Crate}

theorem addArtifact {c' : Crate} {a : Artifact} (hc : c.Built) (h : c.addArtifact a = .ok c') :
    c'.Built := add hc h

/-- The units of a crate hold files that were read. -/
theorem units_read (h : c.Built) : ∀ u ∈ c.units, ∃ text, Source.File.read? text = some u.file := by
  induction h with
  | @create name c h =>
    unfold Crate.create at h
    split at h
    · cases h
    · cases h
      simp
  | @add c c' name module text _ h ih =>
    obtain ⟨-, file, hread, rfl⟩ := add_ok h
    exact List.forall_mem_append.2 ⟨ih, List.forall_mem_singleton.2 ⟨text, hread⟩⟩

theorem units_shaped (h : c.Built) : ∀ u ∈ c.units, u.file.Shaped := by
  intro u hu
  obtain ⟨text, hread⟩ := h.units_read u hu
  exact Source.File.read?_shaped hread

theorem addFile {c' : Crate} {d : Disk} {dir : String} {place file : List String} (hc : c.Built)
    (h : c.addFile d dir place file = .ok c') : c'.Built := by
  unfold Crate.addFile at h
  split at h
  · cases h
  · exact hc.add h

/-- The crates that are read from disk are built. -/
theorem load {d : Disk} {name dir : String} (h : Crate.load d name dir = .ok c) : c.Built := by
  obtain ⟨c₀, hcreate, h⟩ := bind_ok h
  split at h
  · cases h
  · split at h
    · cases h
    · exact foldlM_ok (P := Built) (fun _ _ _ => addFile) (.create hcreate) h

end Built

end Crate

end DisplayGen
