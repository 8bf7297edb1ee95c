import DisplayGen.Source.Tree
import DisplayGen.Text.Split

/-!
# Readers of token trees

A reader takes token trees off the front of a list, or fails. `Peek` holds the questions that a
reader asks about what comes next; operators of several characters are matched one punctuation
token at a time, each but the last joint with the next.
-/

namespace DisplayGen.Source

/-- A reader: a result and the trees that are left, or failure. -/
abbrev Reader := StateT (List TokenTree) Option

namespace Peek

/-- The next tree is a name. -/
def name : List TokenTree → Bool
  | .ident i :: _ => i.isName
  | _ => false

/-- The next tree is a word of any kind. -/
def anyWord : List TokenTree → Bool
  | .ident _ :: _ => true
  | _ => false

/-- The next tree is the given word. -/
def word (w : String) : List TokenTree → Bool
  | .ident i :: _ => i.isWord w
  | _ => false

/-- The trees after an operator that stands at the front. -/
def afterOp? : List Char → List TokenTree → Option (List TokenTree)
  | [c], .punct d _ :: ts => if c = d then some ts else none
  | c :: cs, .punct d true :: ts => if c = d then afterOp? cs ts else none
  | _, _ => none

/-- The operator stands at the front. -/
def op (s : String) (ts : List TokenTree) : Bool := (afterOp? s.toList ts).isSome

/-- One of the operators stands at the front. -/
def anyOp (ops : List String) (ts : List TokenTree) : Bool := ops.any fun s => op s ts

/-- The next tree is a group in the given brackets. -/
def group (d : Delimiter) : List TokenTree → Bool
  | .group e _ :: _ => d == e
  | _ => false

/-- A lifetime stands at the front. -/
def lifetime : List TokenTree → Bool
  | .punct '\'' true :: .ident _ :: _ => true
  | _ => false

/-- A literal stands at the front: a literal token, a truth value, or a negative number. -/
def literal : List TokenTree → Bool
  | .literal _ :: _ => true
  | .ident i :: _ => i.isWord "true" || i.isWord "false"
  | .punct '-' _ :: .literal l :: _ => l.kind == .number
  | _ => false

/-- A string literal stands at the front. -/
def string : List TokenTree → Bool
  | .literal l :: _ => l.kind == .string
  | _ => false

/-- What follows the next tree; a lifetime counts as one tree. -/
def skip? : List TokenTree → Option (List TokenTree)
  | [] => none
  | .punct '\'' true :: .ident _ :: ts => some ts
  | _ :: ts => some ts

/-- The question asked after the next tree. -/
def second (q : List TokenTree → Bool) (ts : List TokenTree) : Bool :=
  match skip? ts with
  | some r => q r
  | none => false

/-- The question asked after the next two trees. -/
def third (q : List TokenTree → Bool) (ts : List TokenTree) : Bool := second (second q) ts

end Peek

namespace Reader

/-- The reader that accepts nothing. -/
def reject {α : Type} : Reader α := fun _ => none

/-- What is left to read. -/
def pending : Reader (List TokenTree) := fun ts => some (ts, ts)

/-- The answer to a question about what comes next. -/
def sees (q : List TokenTree → Bool) : Reader Bool := fun ts => some (q ts, ts)

/-- Fails unless the question is answered yes. -/
def guarded (q : List TokenTree → Bool) : Reader Unit := fun ts => if q ts then some ((), ts) else none

/-- Nothing is left. -/
def atEnd : Reader Bool := sees List.isEmpty

/-- A word of any kind. -/
def anyWord : Reader Ident
  | .ident i :: ts => some (i, ts)
  | _ => none

/-- A name. -/
def name : Reader Ident
  | .ident i :: ts => if i.isName then some (i, ts) else none
  | _ => none

/-- The given word. -/
def word (w : String) : Reader Unit
  | .ident i :: ts => if i.isWord w then some ((), ts) else none
  | _ => none

/-- The given word, if it comes next. -/
def word? (w : String) : Reader Bool := fun ts =>
  match word w ts with
  | some (_, r) => some (true, r)
  | none => some (false, ts)

/-- The given operator. -/
def op (s : String) : Reader Unit := fun ts => (Peek.afterOp? s.toList ts).map fun r => ((), r)

/-- The given operator, if it comes next. -/
def op? (s : String) : Reader Bool := fun ts =>
  match Peek.afterOp? s.toList ts with
  | some r => some (true, r)
  | none => some (false, ts)

/-- The given word where it is admitted, if it comes next. -/
def wordIf? (admitted : Bool) (w : String) : Reader Bool := if admitted then word? w else pure false

/-- The given operator where it is admitted, if it comes next. -/
def opIf? (admitted : Bool) (s : String) : Reader Bool := if admitted then op? s else pure false

/-- A lifetime. -/
def lifetime : Reader Ident
  | .punct '\'' true :: .ident i :: ts => some (i, ts)
  | _ => none

/-- A literal. -/
def literal : Reader (List TokenTree)
  | .literal l :: ts => some ([.literal l], ts)
  | .ident i :: ts => if i.isWord "true" || i.isWord "false" then some ([.ident i], ts) else none
  | .punct '-' j :: .literal l :: ts =>
    if l.kind == .number then some ([.punct '-' j, .literal l], ts) else none
  | _ => none

/-- A group in any brackets. -/
def anyGroup : Reader (Delimiter × List TokenTree)
  | .group d content :: ts => some ((d, content), ts)
  | _ => none

/-- Reads the whole content of a group in the given brackets. -/
def inside {α : Type} (d : Delimiter) (p : Reader α) : Reader α
  | .group e content :: ts =>
    if d = e then
      match p content with
      | some (a, []) => some (a, ts)
      | _ => none
    else none
  | _ => none

/-- Reads ahead: the result, if there is one, and nothing is taken. -/
def ahead {α : Type} (p : Reader α) : Reader (Option α) := fun ts => some ((p ts).map (·.1), ts)

/-- Reads if it can; otherwise nothing is taken. -/
def attempt {α : Type} (p : Reader α) : Reader (Option α) := fun ts =>
  match p ts with
  | some (a, r) => some (some a, r)
  | none => some (none, ts)

/-- The result together with the trees that were taken. -/
def taken {α : Type} (p : Reader α) : Reader (α × List TokenTree) := fun ts =>
  match p ts with
  | some (a, r) => some ((a, ts.take (ts.length - r.length)), r)
  | none => none

/-- `repeatedly`, at most `fuel` times. -/
def repeatedlyFrom {α : Type} (go : List TokenTree → Bool) (p : Reader α) : Nat → Reader (List α)
  | 0 => reject
  | fuel + 1 => do
    if ← sees go then
      let a ← p
      let as ← repeatedlyFrom go p fuel
      return a :: as
    else return []

/-- Reads as long as the question is answered yes. Each round takes at least one tree. -/
def repeatedly {α : Type} (go : List TokenTree → Bool) (p : Reader α) : Reader (List α) := fun ts =>
  repeatedlyFrom go p (ts.length + 1) ts

/-- `separated`, at most `fuel` times. -/
def separatedFrom {α : Type} (stop : List TokenTree → Bool) (p : Reader α) (sep : String) :
    Nat → Reader (List α)
  | 0 => reject
  | fuel + 1 => do
    if ← sees stop then return []
    let a ← p
    if ← sees stop then return [a]
    op sep
    let as ← separatedFrom stop p sep fuel
    return a :: as

/-- Reads up to where `stop` is answered yes, with a separator between each two and perhaps one at
the end. -/
def separated {α : Type} (stop : List TokenTree → Bool) (p : Reader α) (sep : String) :
    Reader (List α) := fun ts => separatedFrom stop p sep (ts.length + 1) ts

/-- Comma separated up to the end. -/
def commas {α : Type} (p : Reader α) : Reader (List α) := separated List.isEmpty p ","

/-- `linked`, at most `fuel` times. -/
def linkedFrom {α : Type} (stop : List TokenTree → Bool) (p : Reader α) (link : String) :
    Nat → Reader (List α)
  | 0 => reject
  | fuel + 1 => do
    if ← sees stop then return []
    let a ← p
    if ← op? link then
      let as ← linkedFrom stop p link fuel
      return a :: as
    else return [a]

/-- Reads one after the other as long as a link stands between them; a link may also stand before
the place where `stop` is answered yes. -/
def linked {α : Type} (stop : List TokenTree → Bool) (p : Reader α) (link : String) :
    Reader (List α) := fun ts => linkedFrom stop p link (ts.length + 1) ts

/-- Reads a whole sequence of trees. -/
def whole? {α : Type} (p : Reader α) (ts : List TokenTree) : Option α :=
  match p ts with
  | some (a, []) => some a
  | _ => none

end Reader

end DisplayGen.Source
