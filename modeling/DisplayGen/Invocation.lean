/-!
# Invocations

The words of a command line say which command to run and with which paths. Words that mean nothing
are kept, and so are the flags that lack their path, so that they can be reported.
-/

namespace DisplayGen

/-- What can be asked for. -/
inductive Command where
  | generate
  | printSummaries
  | generateConfig
  | watch
  deriving DecidableEq, Repr, Inhabited

/-- The command that a word stands for. -/
def Command.ofWord? : String → Option Command
  | "generate" => some .generate
  | "print-summaries" => some .printSummaries
  | "generate-config" => some .generateConfig
  | "watch" => some .watch
  | _ => none

/-- A flag that a path follows. -/
inductive PathFlag where
  | config
  | outDir
  deriving DecidableEq, Repr, Inhabited

namespace PathFlag

/-- A flag as it is written. -/
def word : PathFlag → String
  | config => "--config"
  | outDir => "--out-dir"

/-- The flag that a word stands for. -/
def ofWord? (w : String) : Option PathFlag :=
  if w = config.word then some config else if w = outDir.word then some outDir else none

end PathFlag

/-- What a command line asks for. -/
structure Invocation where
  command : Command
  configPath : Option String
  outDir : Option String
  /-- The words that mean nothing, in order. -/
  unknown : List String
  /-- The flag at the end that lacks its path. -/
  incomplete : Option PathFlag
  deriving DecidableEq, Repr, Inhabited

namespace Invocation

/-- The invocation without any options. -/
def ofCommand (c : Command) : Invocation := ⟨c, none, none, [], none⟩

/-- The invocation with a flag's path set. -/
def setPath (i : Invocation) (value : String) : PathFlag → Invocation
  | .config => { i with configPath := some value }
  | .outDir => { i with outDir := some value }

/-- The invocation with one more word that means nothing. -/
def addUnknown (i : Invocation) (w : String) : Invocation := { i with unknown := i.unknown ++ [w] }

/-- Takes the options from the words after the command. -/
def takeOptions (i : Invocation) : List String → Invocation
  | [] => i
  | [w] =>
    match PathFlag.ofWord? w with
    | some flag => { i with incomplete := some flag }
    | none => i.addUnknown w
  | w :: value :: rest =>
    match PathFlag.ofWord? w with
    | some flag => takeOptions (i.setPath value flag) rest
    | none => takeOptions (i.addUnknown w) (value :: rest)

/-- The words of a command line after the name of the program, and after `strgen` where it stands as
the name of a subcommand. -/
def wordsAfterName : List String → List String
  | _ :: "strgen" :: rest => rest
  | args => args.drop 1

/-- What the words after the name of the program ask for. -/
def ofWords : List String → Invocation
  | [] => ofCommand .generate
  | w :: rest =>
    match Command.ofWord? w with
    | some c => takeOptions (ofCommand c) rest
    | none => takeOptions (ofCommand .generate) (w :: rest)

/-- What a command line asks for, the name of the program first. -/
def parse (args : List String) : Invocation := ofWords (wordsAfterName args)

end Invocation

end DisplayGen
