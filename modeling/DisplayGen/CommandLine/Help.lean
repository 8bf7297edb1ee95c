import DisplayGen.CommandLine.Style

/-!
# Help

The texts that say what the program is and how to use it, line by line.
-/

namespace DisplayGen

/-- The version of the program. -/
def version : String := "0.1.0"

/-- The line that says the version. -/
def versionLine : String := Style.bold "cargo-strgen version" ++ " " ++ Style.green version

/-- The lines that say how to use the program. -/
def helpLines : List String := [
  "",
  Style.bold "cargo-strgen" ++ ": Generates Display implementations for marked structs.",
  "",
  Style.boldBlue "Usage" ++ ":",
  "    cargo strgen [COMMAND] [OPTIONS]",
  "",
  Style.boldBlue "Commands" ++ ":",
  "    " ++ Style.green "generate" ++ "          Generate artifacts for changed types (default)",
  "    " ++ Style.green "print-summaries" ++ "   Print every marked type and its public fields",
  "    " ++ Style.green "generate-config" ++
    "   Generates an initial strgen.ron for your project",
  "    " ++ Style.green "watch" ++ "             Regenerate whenever the sources change",
  "",
  Style.boldBlue "Options" ++ ":",
  "    --config PATH          Configuration file to use instead of strgen.ron",
  "    --out-dir PATH         Directory to write artifacts to",
  "    -h, --help             Print this message",
  "    -V, --version          Print version info and exit",
  "",
  Style.yellow "Logging" ++ ": RUST_LOG=debug shows which types were regenerated and why.",
  ""]

/-- The lines that say where the program is to be run. -/
def wrongDirectoryLines : List String := [
  Style.boldRed "Not in a Cargo project directory!",
  Style.yellow "cargo-strgen generates Display implementations for Rust structs.",
  "It needs to be run from a directory containing a Cargo.toml file."]

end DisplayGen
