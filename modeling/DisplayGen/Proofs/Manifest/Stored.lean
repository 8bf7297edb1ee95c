import DisplayGen.Proofs.Disk.Alike
import DisplayGen.Proofs.Disk.Frame
import DisplayGen.Proofs.Session

/-!
# Manifests on disk are lossless

A manifest that was saved is loaded as it was, whatever texts stand in it, and saving what was loaded
leaves the same bytes (`Manifest.load?_save`).
-/

namespace DisplayGen

namespace Manifest

variable {m : Manifest} {d d' : Disk} {dir : String}

/-- A manifest with a name can be saved where one was saved before. -/
theorem exists_save_again (hname : m.crateName.isEmpty = false) (hdir : d.HasDirectory dir)
    (hfile : ∃ q, d.locate (pathIn dir) = .ok q ∧ d.HasFile q) :
    ∃ d', (m.save dir).outcome d = (.ok (), d') := by
  obtain ⟨q, hq, hthere⟩ := hfile
  obtain ⟨d', hwrite, -⟩ := Disk.Alike.write_file m.toText hq hthere
  refine ⟨d', ?_⟩
  unfold save
  dsimp only
  rw [if_neg (by rw [hname]; exact Bool.false_ne_true), Work.outcome_bind, Work.outcome_change,
    Disk.makeDirs_of_hasDirectory hdir]
  dsimp only
  rw [Work.outcome_change, hwrite]

/-- What a save says about the manifest and the directory. -/
theorem save_named (h : (m.save dir).outcome d = (.ok (), d')) :
    m.crateName.isEmpty = false ∧ d'.HasDirectory dir := by
  unfold save at h
  dsimp only at h
  split at h
  · obtain ⟨u, d₁, hthrow, -⟩ := Work.bind_ok h
    cases hthrow
  · rename_i hname
    obtain ⟨u, d₁, hdirs, hwrite⟩ := Work.bind_ok h
    have hthere := Disk.hasDirectory_makeDirs (Work.change_ok hdirs)
    exact ⟨Bool.eq_false_of_not_eq_true hname,
      hthere.later (Disk.put_leaves (Work.change_ok hwrite)).later⟩

/-- A manifest that is saved is loaded as the manifest that it was. Saving it again succeeds, and the bytes of
its file are the same as before. -/
theorem load?_save (h : (m.save dir).outcome d = (.ok (), d')) :
    load? d' dir = .ok (some m) ∧
      d'.readBytes (pathIn dir) = .ok (Text.encode m.toText) ∧
      ∃ d'', (m.save dir).outcome d' = (.ok (), d'') ∧
        d''.readBytes (pathIn dir) = .ok (Text.encode m.toText) := by
  obtain ⟨hname, hdir⟩ := save_named h
  have htext := (save_ok h).2
  obtain ⟨d'', hagain⟩ := exists_save_again hname hdir (Disk.hasFile_of_readText htext)
  refine ⟨load?_eq_some.2 ⟨m.toText, ?_, m.read?_toText⟩, Disk.readBytes_of_readText htext, d'', hagain,
    Disk.readBytes_of_readText (save_ok hagain).2⟩
  exact congrArg Except.toOption htext

/-- A manifest without a marker's file, with characters of every kind that is escaped: quotes, a backslash,
control characters with and without a letter of their own, and one outside the first plane. -/
def escapedManifest : Manifest :=
  ⟨"d\\", none, [⟨"b\"", ⟨"d::\n", "😀\x01", ["", "r#\t"]⟩⟩, ⟨"a", ⟨"d", "/é", []⟩⟩]⟩

theorem load?_save_escaped : ∃ d',
    (escapedManifest.save "/w/o").outcome ⟨"/w", []⟩ = (.ok (), d') ∧
      load? d' "/w/o" = .ok (some escapedManifest) ∧
      ∃ d'', (escapedManifest.save "/w/o").outcome d' = (.ok (), d'') ∧
        d''.readBytes (pathIn "/w/o") = d'.readBytes (pathIn "/w/o") := by
  have hsaved : ((escapedManifest.save "/w/o").outcome ⟨"/w", []⟩).1 = .ok () :=
    toOption_eq_some (by decide +kernel)
  obtain ⟨d', hsave⟩ : ∃ d', (escapedManifest.save "/w/o").outcome ⟨"/w", []⟩ = (.ok (), d') :=
    ⟨_, Prod.ext hsaved rfl⟩
  obtain ⟨hload, hbytes, d'', hagain, hsame⟩ := load?_save hsave
  exact ⟨d', hsave, hload, d'', hagain, hsame.trans hbytes.symm⟩

end Manifest

end DisplayGen
