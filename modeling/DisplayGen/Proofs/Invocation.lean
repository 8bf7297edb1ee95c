import DisplayGen.Invocation
import Mathlib.Data.List.Induction

/-!
# Command lines as they are written

`Invocation.Written` takes a command line apart: the name of the program, `strgen` where it stands, the
command, then flags with their paths and words of their own in any order (`Chunk`), and perhaps a flag at
the end that lacks its path.

* `takeOptions_words`: what a chunk does to the invocation that has been read so far, whatever follows it.
  A path may look like a flag or a command; as it is read together with its flag, it is a path.
* `Written.parse_args`: a command line is read as it was written, as long as no word behind the names can
  be mistaken for a name or a command that was left out.
* `Written.exists_args`: every command line can be written so.
-/

namespace DisplayGen

/-- A command as it is written. -/
def Command.word : Command → String
  | generate => "generate"
  | printSummaries => "print-summaries"
  | generateConfig => "generate-config"
  | watch => "watch"

theorem Command.ofWord?_eq_some {w : String} {c : Command} : ofWord? w = some c ↔ w = c.word := by
  constructor
  · intro h
    unfold ofWord? at h
    split at h
    all_goals cases h
    all_goals rfl
  · rintro rfl
    cases c <;> rfl

theorem Command.ofWord?_eq_none {w : String} : ofWord? w = none ↔ ∀ c : Command, w ≠ c.word := by
  rw [Option.eq_none_iff_forall_ne_some]
  exact forall_congr' fun c => not_congr ofWord?_eq_some

theorem PathFlag.ofWord?_eq_some {w : String} {flag : PathFlag} :
    ofWord? w = some flag ↔ w = flag.word := by
  unfold ofWord?
  constructor
  · intro h
    split at h
    · cases h
      assumption
    · split at h
      · cases h
        assumption
      · cases h
  · rintro rfl
    cases flag <;> rfl

theorem PathFlag.ofWord?_eq_none {w : String} : ofWord? w = none ↔ ∀ flag : PathFlag, w ≠ flag.word := by
  rw [Option.eq_none_iff_forall_ne_some]
  exact forall_congr' fun flag => not_congr ofWord?_eq_some

namespace Invocation

/-! ## Options -/

/-- A flag with its path, or a word that is no flag. -/
inductive Chunk where
  | path (flag : PathFlag) (value : String)
  | word (w : String) (h : ∀ flag : PathFlag, w ≠ flag.word)

namespace Chunk

/-- The words that a chunk is written with. -/
def words : Chunk → List String
  | path flag value => [flag.word, value]
  | word w _ => [w]

/-- The path that a chunk sets for a flag. -/
def value? (flag : PathFlag) : Chunk → Option String
  | path f value => if f = flag then some value else none
  | word _ _ => none

/-- The word that a chunk is by itself. -/
def word? : Chunk → Option String
  | path _ _ => none
  | word w _ => some w

end Chunk

/-- What a chunk does to the invocation that has been read so far. -/
def take (i : Invocation) : Chunk → Invocation
  | .path flag value => i.setPath value flag
  | .word w _ => i.addUnknown w

/-- A chunk is read for what it is, whatever follows it. -/
theorem takeOptions_words (i : Invocation) (c : Chunk) (rest : List String) :
    takeOptions i (c.words ++ rest) = takeOptions (i.take c) rest := by
  cases c with
  | path flag value =>
    show takeOptions i (flag.word :: value :: rest) = _
    rw [takeOptions, PathFlag.ofWord?_eq_some.2 rfl]
    rfl
  | word w h =>
    have hw : PathFlag.ofWord? w = none := PathFlag.ofWord?_eq_none.2 h
    show takeOptions i (w :: rest) = takeOptions (i.addUnknown w) rest
    cases rest with
    | nil => simp [takeOptions, hw]
    | cons v rest => simp [takeOptions, hw]

theorem takeOptions_chunks (i : Invocation) (cs : List Chunk) (rest : List String) :
    takeOptions i (cs.flatMap Chunk.words ++ rest) = takeOptions (cs.foldl take i) rest := by
  induction cs generalizing i with
  | nil => rfl
  | cons c cs ih => rw [List.flatMap_cons, List.append_assoc, takeOptions_words, ih, List.foldl_cons]

/-- The path that a sequence of chunks leaves for a flag: of several the last. -/
def lastPath (flag : PathFlag) (cs : List Chunk) : Option String :=
  (cs.filterMap (Chunk.value? flag)).getLast?

/-- What chunks say, one after the other. -/
theorem foldl_take (command : Command) (cs : List Chunk) : cs.foldl take (ofCommand command) =
    ⟨command, lastPath .config cs, lastPath .outDir cs, cs.filterMap Chunk.word?, none⟩ := by
  induction cs using List.reverseRecOn with
  | nil => rfl
  | append_singleton cs c ih =>
    rw [List.foldl_append, ih, List.foldl_cons, List.foldl_nil]
    cases c with
    | path flag value => cases flag <;> simp [take, setPath, lastPath, Chunk.value?, Chunk.word?]
    | word w h => simp [take, addUnknown, lastPath, Chunk.value?, Chunk.word?]

/-! ## Command lines -/

/-- A command line, taken apart. -/
structure Written where
  program : String
  /-- `strgen` stands behind the name of the program. -/
  subcommand : Bool
  command : Option Command
  chunks : List Chunk
  /-- A flag at the end that lacks its path. -/
  ending : Option PathFlag

namespace Written

/-- The words behind the command. -/
def options (w : Written) : List String :=
  w.chunks.flatMap Chunk.words ++ w.ending.toList.map PathFlag.word

/-- The words behind the names. -/
def words (w : Written) : List String := w.command.toList.map Command.word ++ w.options

/-- The command line as the list of its words. -/
def args (w : Written) : List String :=
  w.program :: ((if w.subcommand then ["strgen"] else []) ++ w.words)

/-- Where no command is given, the first word of the options is none, and it is not `strgen` if that is left
out. -/
def Unambiguous (w : Written) : Prop :=
  w.command = none → ∀ first ∈ (w.chunks.flatMap Chunk.words).head?,
    (∀ c : Command, first ≠ c.word) ∧ (w.subcommand = false → first ≠ "strgen")

end Written

theorem wordsAfterName_of_ne {program : String} {words : List String}
    (h : words.head? ≠ some "strgen") : wordsAfterName (program :: words) = words := by
  unfold wordsAfterName
  split
  · rename_i heq
    cases heq
    exact absurd rfl h
  · rfl

theorem ofWords_command (c : Command) (rest : List String) :
    ofWords (c.word :: rest) = takeOptions (ofCommand c) rest := by
  rw [ofWords, Command.ofWord?_eq_some.2 rfl]

theorem ofWords_of_ne {words : List String} (h : ∀ w ∈ words.head?, ∀ c : Command, w ≠ c.word) :
    ofWords words = takeOptions (ofCommand .generate) words := by
  cases words with
  | nil => rfl
  | cons w rest => rw [ofWords, Command.ofWord?_eq_none.2 (h w rfl)]

namespace Written

variable {w : Written}

theorem takeOptions_options (w : Written) (command : Command) :
    takeOptions (ofCommand command) w.options =
      ⟨command, lastPath .config w.chunks, lastPath .outDir w.chunks, w.chunks.filterMap Chunk.word?,
        w.ending⟩ := by
  unfold options
  rw [takeOptions_chunks, foldl_take]
  cases w.ending with
  | none => rfl
  | some flag => cases flag <;> rfl

/-- The first word of the options is the first word of the chunks, or the flag at the end. -/
theorem mem_head?_options {first : String} (h : first ∈ w.options.head?) :
    first ∈ (w.chunks.flatMap Chunk.words).head? ∨ ∃ flag : PathFlag, first = flag.word := by
  unfold options at h
  rw [List.head?_append] at h
  cases hchunks : (w.chunks.flatMap Chunk.words).head? with
  | some v =>
    rw [hchunks] at h
    exact .inl h
  | none =>
    rw [hchunks] at h
    cases hending : w.ending with
    | none =>
      rw [hending] at h
      cases h
    | some flag =>
      rw [hending] at h
      cases h
      exact .inr ⟨flag, rfl⟩

/-- What is said of the first word of the chunks holds of the first of the options too: a flag is neither a
command nor a name. -/
theorem Unambiguous.options (h : w.Unambiguous) (hnone : w.command = none) :
    ∀ first ∈ w.options.head?,
      (∀ c : Command, first ≠ c.word) ∧ (w.subcommand = false → first ≠ "strgen") := by
  intro first hfirst
  rcases mem_head?_options hfirst with hfirst | ⟨flag, rfl⟩
  · exact h hnone first hfirst
  · refine ⟨fun c => ?_, fun _ => ?_⟩
    · cases flag <;> cases c <;> decide
    · cases flag <;> decide

theorem ofWords_words (h : w.Unambiguous) : ofWords w.words =
    ⟨w.command.getD .generate, lastPath .config w.chunks, lastPath .outDir w.chunks,
      w.chunks.filterMap Chunk.word?, w.ending⟩ := by
  unfold words
  cases hcommand : w.command with
  | some c => exact (ofWords_command c w.options).trans (takeOptions_options w c)
  | none =>
    exact (ofWords_of_ne fun first hfirst => (h.options hcommand first hfirst).1).trans
      (takeOptions_options w .generate)

theorem wordsAfterName_args (h : w.Unambiguous) : wordsAfterName w.args = w.words := by
  unfold args
  cases hsub : w.subcommand with
  | true => rfl
  | false =>
    apply wordsAfterName_of_ne
    show w.words.head? ≠ some "strgen"
    unfold words
    cases hcommand : w.command with
    | some c =>
      show some c.word ≠ some "strgen"
      cases c <;> decide
    | none => exact fun hfirst => (h.options hcommand _ hfirst).2 hsub rfl

/-- A command line is read as it was written: the command, for each flag the path of its last chunk, and the
other words in order. -/
theorem parse_args (w : Written) (h : w.Unambiguous) : parse w.args =
    ⟨w.command.getD .generate, lastPath .config w.chunks, lastPath .outDir w.chunks,
      w.chunks.filterMap Chunk.word?, w.ending⟩ := by
  unfold parse
  rw [wordsAfterName_args h, ofWords_words h]

/-- An option is given twice, with a flag and then a command for its path, and `strgen` is a word like any
other behind the name of the subcommand. -/
theorem parse_args_flags :
    (⟨"cargo", true, none,
        [.word "strgen" (by intro flag; cases flag <;> decide), .path .config "--out-dir",
          .word "generate" (by intro flag; cases flag <;> decide), .path .config "watch"],
        some .outDir⟩ : Written).Unambiguous ∧
      parse ["cargo", "strgen", "strgen", "--config", "--out-dir", "generate", "--config", "watch",
          "--out-dir"] =
        ⟨.generate, some "watch", none, ["strgen", "generate"], some .outDir⟩ := by
  have hunambiguous : (⟨"cargo", true, none,
      [.word "strgen" (by intro flag; cases flag <;> decide), .path .config "--out-dir",
        .word "generate" (by intro flag; cases flag <;> decide), .path .config "watch"],
      some .outDir⟩ : Written).Unambiguous := by
    intro _ first hfirst
    cases hfirst
    exact ⟨fun c => by cases c <;> decide, fun h => nomatch h⟩
  exact ⟨hunambiguous, parse_args _ hunambiguous⟩

/-! ## All command lines -/

theorem exists_chunks (words : List String) : ∃ (cs : List Chunk) (ending : Option PathFlag),
    cs.flatMap Chunk.words ++ ending.toList.map PathFlag.word = words := by
  -- the induction is that of the reader; what it has read so far does not matter
  induction (default : Invocation), words using takeOptions.induct with
  | case1 => exact ⟨[], none, rfl⟩
  | case2 i w flag hflag => exact ⟨[], some flag, by rw [PathFlag.ofWord?_eq_some.1 hflag]; rfl⟩
  | case3 i w hw => exact ⟨[.word w (PathFlag.ofWord?_eq_none.1 hw)], none, rfl⟩
  | case4 i w value rest flag hflag ih =>
    obtain ⟨cs, ending, rfl⟩ := ih
    refine ⟨.path flag value :: cs, ending, ?_⟩
    rw [PathFlag.ofWord?_eq_some.1 hflag]
    rfl
  | case5 i w value rest hw ih =>
    obtain ⟨cs, ending, hwords⟩ := ih
    refine ⟨.word w (PathFlag.ofWord?_eq_none.1 hw) :: cs, ending, ?_⟩
    rw [← hwords]
    rfl

theorem exists_command (words : List String) : ∃ (command : Option Command) (rest : List String),
    command.toList.map Command.word ++ rest = words ∧
      (command = none → ∀ first ∈ rest.head?, ∀ c : Command, first ≠ c.word) := by
  cases words with
  | nil => exact ⟨none, [], rfl, fun _ first hfirst => nomatch hfirst⟩
  | cons w rest =>
    cases hw : Command.ofWord? w with
    | some c => exact ⟨some c, rest, by rw [Command.ofWord?_eq_some.1 hw]; rfl, fun h => nomatch h⟩
    | none =>
      refine ⟨none, w :: rest, rfl, fun _ first hfirst => ?_⟩
      cases hfirst
      exact Command.ofWord?_eq_none.1 hw

/-- Every command line can be written so. -/
theorem exists_args (program : String) (words : List String) :
    ∃ w : Written, w.Unambiguous ∧ w.args = program :: words := by
  obtain ⟨subcommand, behind, hwords, hname⟩ : ∃ (subcommand : Bool) (behind : List String),
      (if subcommand then ["strgen"] else []) ++ behind = words ∧
        (subcommand = false → behind.head? ≠ some "strgen") := by
    by_cases hfirst : words.head? = some "strgen"
    · obtain ⟨rest, rfl⟩ := List.head?_eq_some_iff.1 hfirst
      exact ⟨true, rest, rfl, fun h => nomatch h⟩
    · exact ⟨false, words, rfl, fun _ => hfirst⟩
  obtain ⟨command, rest, hbehind, hcommand⟩ := exists_command behind
  obtain ⟨cs, ending, hrest⟩ := exists_chunks rest
  refine ⟨⟨program, subcommand, command, cs, ending⟩, fun hnone first hfirst => ?_, ?_⟩
  · have hhead : rest.head? = some first := by
      rw [← hrest, List.head?_append, Option.mem_def.1 hfirst]
      rfl
    refine ⟨hcommand hnone first hhead, fun hsub heq => hname hsub ?_⟩
    dsimp only at hnone
    rw [← hbehind, hnone, ← heq]
    exact hhead
  · unfold args Written.words options
    rw [hrest, hbehind, hwords]

end Written

end Invocation

end DisplayGen
