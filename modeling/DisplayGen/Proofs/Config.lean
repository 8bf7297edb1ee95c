import DisplayGen.Config.Stored
import DisplayGen.Proofs.Disk.Work
import DisplayGen.Proofs.Format.Ron

/-!
# Configurations are read back

A configuration that is written as a text is read as the configuration that it was, whatever its texts and its
number are (`Config.read?_toText`). So what is checked before it is written passes the same check when it is
read, from the text or from a file that holds it.
-/

namespace DisplayGen

namespace Config

open Format Format.RonValue Text

/-! ## The text -/

/-- The lines of a configuration's text. -/
def lines (c : Config) : List Line :=
  let text (name s : String) : Line := ⟨name.toList, bytes (quote s).toList, .text s⟩
  [text "marker_path" c.markerPath, text "source_dir" c.sourceDir, text "output_dir" c.outputDir,
    text "artifact_extension" c.artifactExtension,
    ⟨"watch_interval_ms".toList, bytes (toString c.watchInterval.toNat).toList,
      .natural c.watchInterval.toNat⟩]

theorem bytes_fieldLine (name : String) (hname : isAscii name.toList = true) (value : String)
    (v : RonValue) : bytes (fieldLine name value).toList =
      (⟨name.toList, bytes value.toList, v⟩ : Line).text := by
  have hindent : bytes "    ".toList = [' ', ' ', ' ', ' '] := bytes_ascii (by decide)
  have hcolon : bytes ": ".toList = [':', ' '] := bytes_ascii (by decide)
  have hend : bytes ",\n".toList = [',', '\n'] := bytes_ascii (by decide)
  simp only [fieldLine, String.toList_append, bytes_append, hindent, hcolon, hend, bytes_ascii hname,
    Line.text, List.append_assoc, List.cons_append, List.nil_append]

theorem bytes_toText (c : Config) :
    bytes c.toText.toList = '(' :: '\n' :: (RonValue.lines c.lines ++ [')']) := by
  have hopen : bytes "(\n".toList = ['(', '\n'] := bytes_ascii (by decide)
  have hclose : bytes ")".toList = [')'] := bytes_ascii (by decide)
  have hmarker := bytes_fieldLine "marker_path" (by decide) (quote c.markerPath)
    (.text c.markerPath)
  have hsource := bytes_fieldLine "source_dir" (by decide) (quote c.sourceDir)
    (.text c.sourceDir)
  have houtput := bytes_fieldLine "output_dir" (by decide) (quote c.outputDir)
    (.text c.outputDir)
  have hextension := bytes_fieldLine "artifact_extension" (by decide)
    (quote c.artifactExtension) (.text c.artifactExtension)
  have hinterval := bytes_fieldLine "watch_interval_ms" (by decide)
    (toString c.watchInterval.toNat) (.natural c.watchInterval.toNat)
  simp only [toText, String.toList_append, bytes_append, hopen, hclose, hmarker, hsource, houtput,
    hextension, hinterval, lines, RonValue.lines, List.flatMap_cons, List.flatMap_nil,
    List.append_assoc, List.cons_append, List.nil_append, List.append_nil]

/-! ## Reading it -/

/-- A text between quotes, on a line, is read as the text. -/
theorem readBy_text {name : List Char} (hname : isName name = true) (s : String) :
    Line.ReadBy (valueFrom false fieldSteps) ⟨name, bytes (quote s).toList, .text s⟩ := by
  have hquote : bytes ['\"'] = ['\"'] := bytes_ascii (by decide)
  have hbytes : bytes (quote s).toList = '\"' :: (bytes (escapeAll s.toList) ++ ['\"']) := by
    rw [quote, String.toList_ofList, ← List.singleton_append, bytes_append, bytes_append, hquote]
    rfl
  refine ⟨hname, ?_, ?_, fun rest => ?_⟩
  · dsimp only
    rw [hbytes]
    intro c hc
    cases hc
    exact ⟨rfl, by decide⟩
  · dsimp only
    rw [hbytes]
    exact List.cons_ne_nil _ _
  · dsimp only
    rw [hbytes, List.cons_append, List.append_assoc]
    exact valueWith_quote (quoted_bytes s (',' :: rest))

/-- A number that fits into a word, on a line, is read as the number. -/
theorem readBy_natural {name : List Char} (hname : isName name = true) {n : Nat}
    (hn : fitsUnsigned n = true) :
    Line.ReadBy (valueFrom false fieldSteps) ⟨name, bytes (toString n).toList, .natural n⟩ := by
  have hdigits : ∀ d ∈ Nat.toDigits 10 n, d.isDigit = true :=
    fun d hd => Nat.isDigit_of_mem_toDigits (by decide) (by decide) hd
  have hbytes : bytes (toString n).toList = Nat.toDigits 10 n := by
    rw [Nat.toString_eq_ofList_toDigits, String.toList_ofList]
    refine bytes_ascii (isAscii_iff.2 fun d hd => ?_)
    have hnine : '9'.toNat = 57 := rfl
    have hlt := (Char.isDigit_iff_toNat.1 (hdigits d hd)).2
    omega
  have hvalue : Nat.ofDigitChars 10 (Nat.toDigits 10 n) 0 = n := Nat.ofDigitChars_ten_toDigits
  obtain ⟨d, ds, hcons⟩ := List.exists_cons_of_ne_nil (Nat.toDigits_ne_nil (n := n) (b := 10))
  have hd : d.isDigit = true := hdigits d (by rw [hcons]; exact List.mem_cons_self)
  refine ⟨hname, ?_, ?_, fun rest => ?_⟩
  · dsimp only
    rw [hbytes, hcons]
    intro c hc
    cases hc
    exact solid_of_isDigit hd
  · dsimp only
    rw [hbytes]
    exact Nat.toDigits_ne_nil
  · have hnumber := number_digits Nat.toDigits_ne_nil hdigits (by rwa [hvalue]) rest
    dsimp only
    rw [hbytes]
    rw [hvalue] at hnumber
    rw [← hnumber, hcons]
    exact valueWith_digit hd

theorem lines_readBy (c : Config) : ∀ l ∈ c.lines, l.ReadBy (valueFrom false fieldSteps) := by
  have hinterval : fitsUnsigned c.watchInterval.toNat = true := decide_eq_true c.watchInterval.toNat_lt
  intro l hl
  simp only [lines, List.mem_cons, List.not_mem_nil, or_false] at hl
  rcases hl with rfl | rfl | rfl | rfl | rfl
  · exact readBy_text (by decide) _
  · exact readBy_text (by decide) _
  · exact readBy_text (by decide) _
  · exact readBy_text (by decide) _
  · exact readBy_natural (by decide) hinterval

theorem ofFields?_lines (c : Config) :
    ofFields? (c.lines.map fun l => (String.ofList l.name, l.value)) = some c := by
  have hinterval : UInt64.ofNat c.watchInterval.toNat = c.watchInterval := UInt64.ofNat_toNat
  refine Eq.trans (b := some ⟨c.markerPath, c.sourceDir, c.outputDir, c.artifactExtension,
    UInt64.ofNat c.watchInterval.toNat⟩) rfl ?_
  rw [hinterval]

/-- A configuration that is written as a text is read as the configuration. -/
theorem read?_toText (c : Config) : read? c.toText = some c := by
  unfold read? ofBytes? readStruct?
  rw [map_encode, bytes_toText, struct_lines c.lines_readBy]
  exact ofFields?_lines c

/-! ## Checked and stored -/

theorem build_ok {c c' : Config} : c.build = .ok c' ↔ c.validate = .ok () ∧ c' = c := by
  unfold build
  cases hv : c.validate with
  | error e => simp [bind, Except.bind]
  | ok u => simp [bind, Except.bind, pure, Except.pure, eq_comm]

/-- A file that holds a text is loaded as the configuration that the text is read as. -/
theorem load_of_readText {d : Disk} {path text : String} {c : Config} (hfile : d.readText path = .ok text)
    (hread : read? text = some c) : load d path = .ok c := by
  obtain ⟨place, written, hlocate, hnode⟩ := Disk.readText_ok.1 hfile
  have hfind : d.find path = .ok (.file (.text text) written) := by
    rw [Disk.find, hlocate]
    dsimp only
    rw [hnode]
  have hof : ofBytes? (Text.encode text) = some c := hread
  rw [load, hfind, Disk.readBytes_of_readText hfile]
  dsimp only [Except.toOption, Option.bind]
  rw [hof]

/-- A configuration that can be used is lost neither in its text nor in a file that it is saved to: both are
the same text, and what is read from either is the configuration. -/
theorem read_back (c : Config) (h : c.validate = .ok ()) :
    ofText c.toText = .ok c ∧
      ∀ (d d' : Disk) (path : String), (c.save path).outcome d = (.ok (), d') →
        d'.readText path = .ok c.toText ∧
          ((load d' path).bind fun r => r.build.mapError .config) = .ok c := by
  have hbuild : (c.build.mapError .config : Except Cause Config) = .ok c := by
    rw [build_ok.2 ⟨h, rfl⟩]
    rfl
  refine ⟨?_, fun d d' path hsave => ?_⟩
  · rw [ofText, c.read?_toText]
    exact hbuild
  · have htext : d'.readText path = .ok c.toText := Disk.readText_write (Work.change_ok hsave)
    rw [load_of_readText htext c.read?_toText]
    exact ⟨htext, hbuild⟩

/-- Settings with characters of every kind that is escaped: quotes, a backslash, a control character, one that
joins the letter before it, and one outside the first plane. -/
def escapedSettings : Config :=
  ⟨"crate::\"it's\"::M", "s\\rc\n", "e\u0301\x7f😀", "r\ts", 18446744073709551615⟩

theorem read_back_escaped : escapedSettings.validate = .ok () ∧
    ofText escapedSettings.toText = .ok escapedSettings ∧
      ((load ⟨"/w", [(["strgen.ron"], .file (.text escapedSettings.toText) true)]⟩ "/w/strgen.ron").bind
        fun r => r.build.mapError .config) = .ok escapedSettings := by
  have hvalid : escapedSettings.validate = .ok () := by decide +kernel
  have hback := read_back escapedSettings hvalid
  exact ⟨hvalid, hback.1, (hback.2 ⟨"/w", []⟩ _ "/w/strgen.ron" rfl).2⟩

end Config

end DisplayGen
