import DisplayGen.Text.Split

/-!
# Readers of characters

A scan takes characters off the front of a text, or fails.
-/

namespace DisplayGen.Text

/-- A reader of characters: a result and the text that is left, or failure. -/
abbrev Scan := StateT (List Char) Option

namespace Scan

/-- Accepts nothing. -/
def fail {α : Type} : Scan α := fun _ => none

/-- The text that is left to read. -/
def rest : Scan (List Char) := fun cs => some (cs, cs)

/-- The next character, which is left where it is. -/
def peek? : Scan (Option Char) := fun cs => some (cs.head?, cs)

/-- The answer to a question about the next character; no at the end. -/
def sees (p : Char → Bool) : Scan Bool := fun cs =>
  match cs with
  | c :: _ => some (p c, cs)
  | [] => some (false, cs)

/-- Nothing is left. -/
def atEnd : Scan Bool := fun cs => some (cs.isEmpty, cs)

/-- Any character. -/
def next : Scan Char
  | c :: cs => some (c, cs)
  | [] => none

/-- A character of the given class. -/
def oneOf (p : Char → Bool) : Scan Char
  | c :: cs => if p c then some (c, cs) else none
  | [] => none

/-- The given character. -/
def char (c : Char) : Scan Unit := do
  let _ ← oneOf (· == c)

/-- The given text, if it comes next. -/
def text? (s : String) : Scan Bool := fun cs =>
  match afterStart? s.toList cs with
  | some r => some (true, r)
  | none => some (false, cs)

/-- The given text. -/
def text (s : String) : Scan Unit := fun cs => (afterStart? s.toList cs).map fun r => ((), r)

/-- All characters of the given class up to the first of another. -/
def takeWhile (p : Char → Bool) : Scan (List Char) := fun cs =>
  some (cs.takeWhile p, cs.dropWhile p)

/-- Skips the characters of the given class. -/
def skipWhile (p : Char → Bool) : Scan Unit := fun cs => some ((), cs.dropWhile p)

/-- Reads if it can; otherwise nothing is taken. -/
def attempt {α : Type} (p : Scan α) : Scan (Option α) := fun cs =>
  match p cs with
  | some (a, r) => some (some a, r)
  | none => some (none, cs)

/-- Reads with a bound on the number of steps that the length of the text gives. -/
def bounded {α : Type} (p : Nat → Scan α) : Scan α := fun cs => p (cs.length + 1) cs

/-- Reads a whole text. -/
def whole? {α : Type} (p : Scan α) (cs : List Char) : Option α :=
  match p cs with
  | some (a, []) => some a
  | _ => none

end Scan

end DisplayGen.Text
