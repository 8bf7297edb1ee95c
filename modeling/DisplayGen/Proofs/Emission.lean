import DisplayGen.Cache
import DisplayGen.Emission
import DisplayGen.Proofs.Lists
import Mathlib.Data.List.Nodup

/-!
# Laws of emission

* `emit_eq`: whether a summary can be rendered depends on it alone, and the text depends on the tally
  in its first line only.
* `Generated.Rendered`: an artifact is what emission gives for its summary, at some count.
* `artifactName_inj`: names of artifacts are as distinct as keys, and as extensions.
* `behindFirstLine_artifactText`: behind its first line, the text does not depend on the count.
-/

namespace DisplayGen

namespace Summary

variable {s t : Summary} {extension : String}

theorem artifactName_eq (s : Summary) (extension : String) :
    s.artifactName extension = s.key ++ (".g." ++ extension) := by
  rw [artifactName, String.append_assoc]

theorem artifactName_inj : s.artifactName extension = t.artifactName extension ↔ s.key = t.key := by
  rw [artifactName_eq, artifactName_eq]
  exact String.append_left_inj _

theorem artifactName_extension_inj {extension' : String} :
    s.artifactName extension = s.artifactName extension' ↔ extension = extension' := by
  unfold artifactName
  exact String.append_right_inj _

end Summary

namespace Tally

theorem get_increment (t : Tally) (k k' : String) :
    (t.increment k).get k' = t.get k' + if k = k' then 1 else 0 := by
  unfold increment get
  by_cases h : k = k'
  · subst h
    simp
  · have hne : (k' == k) = false := by simpa using Ne.symm h
    have hothers : (t.counts.filter fun p => p.1 != k).lookup k' = t.counts.lookup k' :=
      lookup_filter_of_keep (fun n => by simpa using Ne.symm h) t.counts
    simp [List.lookup_cons, hne, hothers, h]

end Tally

/-! ## Texts without their first line -/

/-- The text behind its first line. -/
def behindFirstLine (text : String) : String :=
  String.ofList ((text.toList.dropWhile (· ≠ '\n')).drop 1)

/-- A text is cut at its first line break. -/
theorem cut_append {line rest : String} (h : '\n' ∉ line.toList) :
    (line ++ "\n" ++ rest).toList.takeWhile (· ≠ '\n') = line.toList ∧
      (line ++ "\n" ++ rest).toList.dropWhile (· ≠ '\n') = '\n' :: rest.toList := by
  have hline : ∀ c ∈ line.toList, decide (c ≠ '\n') = true := by
    intro c hc
    have hne : c ≠ '\n' := fun heq => h (heq ▸ hc)
    simpa using hne
  have hbreak : "\n".toList = ['\n'] := rfl
  rw [String.toList_append, String.toList_append, List.append_assoc,
    List.takeWhile_append_of_pos hline, List.dropWhile_append_of_pos hline, hbreak]
  simp

theorem behindFirstLine_append {line rest : String} (h : '\n' ∉ line.toList) :
    behindFirstLine (line ++ "\n" ++ rest) = rest := by
  rw [behindFirstLine, (cut_append h).2, List.drop_one, List.tail_cons, String.ofList_toList]

/-- The first line of a text is a comment. -/
theorem countLine_eq (n : Nat) : countLine n = "// " ++ ("Generation count: " ++ toString n) := by
  unfold countLine
  simp [ToString.toString, ← String.append_assoc]

theorem newline_not_mem_count (n : Nat) : '\n' ∉ ("Generation count: " ++ toString n).toList := by
  have hdigits : '\n' ∉ (toString n).toList := by
    intro hmem
    rw [Nat.toString_eq_ofList_toDigits, String.toList_ofList] at hmem
    have := Nat.isDigit_of_mem_toDigits (by decide) (by decide) hmem
    simp at this
  rw [String.toList_append, List.mem_append, not_or]
  exact ⟨by decide, hdigits⟩

theorem newline_not_mem_countLine (n : Nat) : '\n' ∉ (countLine n).toList := by
  rw [countLine_eq, String.toList_append, List.mem_append, not_or]
  exact ⟨by decide, newline_not_mem_count n⟩

theorem artifactText_eq (n : Nat) (code : DisplayCode) :
    artifactText n code = countLine n ++ "\n" ++ (generatedHeader ++ "\n" ++ code.render) := by
  simp only [artifactText, String.append_assoc]

theorem behindFirstLine_artifactText (n : Nat) (code : DisplayCode) :
    behindFirstLine (artifactText n code) = generatedHeader ++ "\n" ++ code.render := by
  rw [artifactText_eq, behindFirstLine_append (newline_not_mem_countLine n)]

/-! ## Emission -/

theorem emit_eq (extension : String) (tally : Tally) (s : Summary) :
    emit extension tally s = (DisplayCode.ofSummary s).map fun code =>
      (⟨s.artifactName extension, s.modulePath, artifactText (tally.get s.key + 1) code⟩,
        tally.increment s.key) := by
  have hcount : (tally.increment s.key).get s.key = tally.get s.key + 1 := by
    simp [Tally.get_increment]
  unfold emit
  cases DisplayCode.ofSummary s with
  | error e => rfl
  | ok code =>
    rw [← hcount]
    rfl

theorem emit_ok {extension : String} {tally tally' : Tally} {s : Summary} {a : Artifact}
    (h : emit extension tally s = .ok (a, tally')) :
    ∃ code, DisplayCode.ofSummary s = .ok code ∧
      a = ⟨s.artifactName extension, s.modulePath, artifactText (tally.get s.key + 1) code⟩ ∧
      tally' = tally.increment s.key := by
  rw [emit_eq] at h
  cases hcode : DisplayCode.ofSummary s with
  | error e =>
    rw [hcode] at h
    cases h
  | ok code =>
    rw [hcode] at h
    obtain ⟨rfl, rfl⟩ := Prod.mk.inj (Except.ok.inj h)
    exact ⟨code, rfl, rfl, rfl⟩

/-- The artifact is the rendering of its summary, at some count. -/
def Generated.Rendered (extension : String) (g : Generated) : Prop :=
  ∃ count code, DisplayCode.ofSummary g.summary = .ok code ∧
    g.artifact = ⟨g.summary.artifactName extension, g.summary.modulePath, artifactText count code⟩

theorem Generated.Rendered.name_eq {extension : String} {x : Generated} (h : x.Rendered extension) :
    x.artifact.name = x.summary.artifactName extension := by
  obtain ⟨count, code, -, heq⟩ := h
  rw [heq]

end DisplayGen
