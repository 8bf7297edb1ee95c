import DisplayGen.Format.Word
import DisplayGen.Text.Chars
import DisplayGen.Text.Scan

/-!
# TOML

`TomlTable.read?` reads a document into a table. Texts, arrays and tables are kept; of other values
only that they are well formed. A key may be given once: a table that has been defined by a header
or by dotted keys is not defined again in the other way.
-/

namespace DisplayGen.Format

open DisplayGen.Text

/-- How a table has come into being. -/
inductive TableKind where
  /-- By a header of its own, or as a value between braces. -/
  | defined
  /-- By the header of a table in it. -/
  | implied
  /-- By dotted keys. -/
  | dotted
  deriving DecidableEq, Repr, Inhabited

/-- What stands under a key. -/
inductive TomlItem where
  | text (s : String)
  | truth (b : Bool)
  /-- A number or a time. -/
  | plain
  | array (items : List TomlItem)
  /-- A table between braces. -/
  | inline (kind : TableKind) (entries : List (String × TomlItem))
  | table (kind : TableKind) (entries : List (String × TomlItem))
  /-- Tables under one repeated header, the latest first. -/
  | tables (elements : List (List (String × TomlItem)))
  deriving Inhabited

/-- The content of a table. -/
abbrev TomlTable := List (String × TomlItem)

namespace TomlTable

/-! ## Definitions -/

/-- Replaces what stands under a key, or adds it at the end. -/
def update (key : String) (f : Option TomlItem → Option TomlItem) : TomlTable → Option TomlTable
  | [] => (f none).map fun v => [(key, v)]
  | (k, v) :: es =>
    if k = key then (f (some v)).map fun v' => (k, v') :: es
    else (update key f es).map fun es' => (k, v) :: es'

/-- Goes down to the table at a path and changes it. Tables that are missing on the way come into
being as the given kind. Dotted keys do not reach into tables that are defined. -/
def atPath (kind : TableKind) (f : TableKind → TomlTable → Option TomlTable) :
    List String → TableKind → TomlTable → Option TomlTable
  | [], k, es => f k es
  | key :: rest, _, es => update key (fun
    | none => (atPath kind f rest kind []).map (.table kind)
    | some (.table k es') =>
      if kind = .dotted && k = .defined then none else (atPath kind f rest k es').map (.table k)
    | some (.tables (last :: earlier)) =>
      (atPath kind f rest .defined last).map fun last' => .tables (last' :: earlier)
    | some _ => none) es

/-- `atPath` for dotted keys in a table between braces. -/
def atInlinePath (f : TableKind → TomlTable → Option TomlTable) :
    List String → TableKind → TomlTable → Option TomlTable
  | [], k, es => f k es
  | key :: rest, _, es => update key (fun
    | none => (atInlinePath f rest .dotted []).map (.inline .dotted)
    | some (.inline k es') =>
      if k = .defined then none else (atInlinePath f rest k es').map (.inline k)
    | some _ => none) es

/-- Adds a value under a key that is not there yet. A dotted key needs a table made by dotted keys.
-/
def addNew (isDotted : Bool) (key : String) (v : TomlItem) (k : TableKind) (es : TomlTable) :
    Option TomlTable :=
  if (k == .dotted) != isDotted then none
  else update key (fun
    | none => some v
    | some _ => none) es

/-- Adds a value under a dotted key to a table. -/
def put (keys : List String) (v : TomlItem) (k : TableKind) (es : TomlTable) : Option TomlTable :=
  match keys.getLast? with
  | none => none
  | some key => atPath .dotted (addNew (keys.length != 1) key v) keys.dropLast k es

/-- Adds a value under a dotted key to a table between braces. -/
def putInline (es : TomlTable) (keys : List String) (v : TomlItem) : Option TomlTable :=
  match keys.getLast? with
  | none => none
  | some key => atInlinePath (addNew (keys.length != 1) key v) keys.dropLast .defined es

/-- Defines the table of a header. -/
def define (path : List String) (root : TomlTable) : Option TomlTable :=
  match path.getLast? with
  | none => none
  | some key =>
    atPath .implied (fun _ => update key fun
      | none => some (.table .defined [])
      | some (.table .implied es) => some (.table .defined es)
      | some _ => none) path.dropLast .defined root

/-- Adds a table under a repeated header. -/
def append (path : List String) (root : TomlTable) : Option TomlTable :=
  match path.getLast? with
  | none => none
  | some key =>
    atPath .implied (fun _ => update key fun
      | none => some (.tables [[]])
      | some (.tables elements) => some (.tables ([] :: elements))
      | some _ => none) path.dropLast .defined root

/-- What stands under a key. -/
def get? (es : TomlTable) (key : String) : Option TomlItem := es.lookup key

/-! ## Blanks, comments and line ends -/

/-- A blank inside a line. -/
def isBlank (c : Char) : Bool := c == ' ' || c == '\t'

/-- A character that may stand in a comment. -/
def inComment (c : Char) : Bool := c == '\t' || (32 ≤ c.toNat && c.toNat ≠ 127)

/-- Skips blanks. -/
def blanks : Scan Unit := Scan.skipWhile isBlank

/-- Skips a comment, if one comes next. -/
def comment? : Scan Unit := do
  if ← Scan.text? "#" then Scan.skipWhile inComment

/-- A line end, if one comes next. -/
def lineEnd? : Scan Bool := do
  if ← Scan.text? "\n" then return true else Scan.text? "\r\n"

/-- The end of a line or of the document, after blanks and a comment. -/
def endOfLine : Scan Unit := do
  blanks
  comment?
  if ← lineEnd? then return ()
  else if ← Scan.atEnd then return ()
  else Scan.fail

/-- Skips blanks, comments and line ends, at most `fuel` lines. -/
def gapFrom : (fuel : Nat) → Scan Unit
  | 0 => Scan.fail
  | fuel + 1 => do
    blanks
    comment?
    if ← lineEnd? then gapFrom fuel else return ()

/-- Skips blanks, comments and line ends. -/
def gap : Scan Unit := Scan.bounded gapFrom

/-! ## Texts -/

/-- A character of a text on one line that stands for itself, quotes and backslashes apart. -/
def inText (c : Char) : Bool := c == '\t' || (32 ≤ c.toNat && c.toNat ≠ 127)

/-- The character of so many hexadecimal digits. -/
def code (count : Nat) : Scan Char := fun cs =>
  let ds := (cs.take count).filterMap hexValue?
  if ds.length = count then
    match charOfCode? (ds.foldl (fun n d => n * 16 + d) 0) with
    | some c => some (c, cs.drop count)
    | none => none
  else none

/-- What stands after a backslash. -/
def escape : Scan Char := do
  match ← Scan.next with
  | 'b' => return Char.ofNat 8
  | 'f' => return Char.ofNat 12
  | 'n' => return '\n'
  | 'r' => return '\r'
  | 't' => return '\t'
  | 'u' => code 4
  | 'U' => code 8
  | '\\' => return '\\'
  | '\"' => return '\"'
  | _ => Scan.fail

/-- The rest of a text on one line up to the closing quote. -/
def basicFrom : Nat → Scan (List Char)
  | 0 => Scan.fail
  | fuel + 1 => do
    match ← Scan.next with
    | '\"' => return []
    | '\\' =>
      let c ← escape
      let cs ← basicFrom fuel
      return c :: cs
    | c =>
      if inText c then
        let cs ← basicFrom fuel
        return c :: cs
      else Scan.fail

/-- A text between double quotes on one line. -/
def basic : Scan String := do
  Scan.char '\"'
  return String.ofList (← Scan.bounded basicFrom)

/-- A text between single quotes on one line. -/
def verbatim : Scan String := do
  Scan.char '\''
  let cs ← Scan.takeWhile fun c => inText c && c ≠ '\''
  Scan.char '\''
  return String.ofList cs

/-- The end of a text of several lines: three quotes, of which up to two more may belong to it. -/
def closing? (quote : Char) (cs : List Char) : Option (List Char × List Char) :=
  let n := (cs.takeWhile (· == quote)).length
  if n < 3 then none
  else
    let extra := min (n - 3) 2
    some (List.replicate extra quote, cs.drop (extra + 3))

/-- The text after blanks and line ends. -/
def dropWhite : List Char → List Char
  | '\r' :: '\n' :: r => dropWhite r
  | c :: r => if isBlank c || c == '\n' then dropWhite r else c :: r
  | [] => []

/-- A break of a line in a text whose white space does not count: the line ends after the backslash,
and the text goes on at the next character that is no white space. -/
def continuation : Scan Bool := fun cs =>
  match (blanks *> lineEnd?) cs with
  | some (true, r) => some (true, dropWhite r)
  | _ => some (false, cs)

/-- The rest of a text of several lines, in which a backslash escapes if `escapes` says so. -/
def linesFrom (quote : Char) (escapes : Bool) : Nat → Scan (List Char)
  | 0 => Scan.fail
  | fuel + 1 => do
    match closing? quote (← Scan.rest) with
    | some (cs, r) => fun _ => some (cs, r)
    | none =>
      if ← lineEnd? then
        let cs ← linesFrom quote escapes fuel
        return '\n' :: cs
      else
        let c ← Scan.next
        if escapes && c == '\\' then
          if ← continuation then linesFrom quote escapes fuel
          else
            let e ← escape
            let cs ← linesFrom quote escapes fuel
            return e :: cs
        else if inText c then
          let cs ← linesFrom quote escapes fuel
          return c :: cs
        else Scan.fail

/-- A text of several lines between triple quotes. A line end right after the opening is dropped. -/
def lines (quote : Char) (escapes : Bool) : Scan String := do
  let _ ← lineEnd?
  return String.ofList (← Scan.bounded (linesFrom quote escapes))

/-- A text in any of its four forms. -/
def textValue : Scan String := do
  if ← Scan.text? "\"\"\"" then lines '\"' true
  else if ← Scan.text? "'''" then lines '\'' false
  else if ← Scan.sees (· == '\"') then basic
  else verbatim

/-! ## Keys -/

/-- A character of a bare key. -/
def inBareKey (c : Char) : Bool := isAsciiLetter c || isAsciiDigit c || c == '_' || c == '-'

/-- One part of a key. -/
def keyPart : Scan String := do
  if ← Scan.sees (· == '\"') then basic
  else if ← Scan.sees (· == '\'') then verbatim
  else
    match ← Scan.takeWhile inBareKey with
    | [] => Scan.fail
    | cs => return String.ofList cs

/-- The parts of a key with points between them, at most `fuel` of them. -/
def keyFrom : (fuel : Nat) → Scan (List String)
  | 0 => Scan.fail
  | fuel + 1 => do
    blanks
    let k ← keyPart
    blanks
    if ← Scan.text? "." then
      let ks ← keyFrom fuel
      return k :: ks
    else return [k]

/-- How many brackets values may nest in, and how many parts a key may have. -/
def nestingLimit : Nat := 79

/-- A key with the blanks around it. -/
def key : Scan (List String) := do
  let ks ← Scan.bounded keyFrom
  if ks.length ≤ nestingLimit then return ks else Scan.fail

/-! ## Numbers and times -/

/-- Digits of the given class, with single underscores between them; at most `fuel` groups. -/
def digitsFrom (p : Char → Bool) : (fuel : Nat) → Scan (List Char)
  | 0 => Scan.fail
  | fuel + 1 => do
    match ← Scan.takeWhile p with
    | [] => Scan.fail
    | ds =>
      if ← Scan.text? "_" then
        let more ← digitsFrom p fuel
        return ds ++ more
      else return ds

/-- Digits of the given class, with single underscores between them. -/
def digits (p : Char → Bool) : Scan (List Char) := Scan.bounded (digitsFrom p)

/-- The value of digits in a base. -/
def digitsValue (base : Nat) (ds : List Char) : Nat :=
  ds.foldl (fun n d => n * base + (hexValue? d).getD 0) 0

/-- A number in a base that two characters announce. -/
def based (base : Nat) : Scan Unit := do
  let ds ← digits fun c =>
    match hexValue? c with
    | some d => d < base
    | none => false
  if fitsSigned false (digitsValue base ds) then return () else Scan.fail

/-- The exponent of a number, if one comes next. -/
def exponent? : Scan (Option Int) := do
  if ← Scan.sees (fun c => c == 'e' || c == 'E') then
    let _ ← Scan.next
    let negative ← Scan.text? "-"
    if !negative then
      let _ ← Scan.text? "+"
    let n := digitsValue 10 (← digits isAsciiDigit)
    return some (if negative then -(n : Int) else n)
  else return none

/-- The digits before a point: a zero stands alone. -/
def wholeDigits : Scan (List Char) := do
  let ds ← digits isAsciiDigit
  match ds with
  | ['0'] => return ds
  | '0' :: _ => Scan.fail
  | _ => return ds

/-- A decimal number, whole or not, after its sign. One that is not whole must not be too large. -/
def decimal (negative : Bool) : Scan Unit := do
  let ds ← wholeDigits
  let fraction ← if ← Scan.text? "." then digits isAsciiDigit else pure []
  let power ← exponent?
  if fraction.isEmpty && power.isNone then
    if fitsSigned negative (digitsValue 10 ds) then return () else Scan.fail
  else if negative || fitsReal (digitsValue 10 (ds ++ fraction)) (power.getD 0 - fraction.length) then
    return ()
  else Scan.fail

/-- A number. -/
def number : Scan Unit := do
  if ← Scan.text? "0x" then based 16
  else if ← Scan.text? "0o" then based 8
  else if ← Scan.text? "0b" then based 2
  else
    let negative ← Scan.text? "-"
    if !negative then
      let _ ← Scan.text? "+"
    if ← Scan.text? "inf" then return ()
    else if ← Scan.text? "nan" then return ()
    else decimal negative

/-- The value of so many decimal digits, between two bounds. -/
def field (count low high : Nat) : Scan Nat := fun cs =>
  let ds := cs.take count
  let n := digitsValue 10 ds
  if ds.length = count && ds.all isAsciiDigit && low ≤ n && n ≤ high then some (n, cs.drop count)
  else none

/-- The number of days in a month. -/
def daysIn (year month : Nat) : Nat :=
  if month = 2 then
    if year % 4 = 0 && (year % 100 ≠ 0 || year % 400 = 0) then 29 else 28
  else if [4, 6, 9, 11].contains month then 30
  else 31

/-- A time of the day. -/
def time : Scan Unit := do
  let _ ← field 2 0 23
  Scan.char ':'
  let _ ← field 2 0 59
  Scan.char ':'
  let _ ← field 2 0 60
  if ← Scan.text? "." then
    match ← Scan.takeWhile isAsciiDigit with
    | [] => Scan.fail
    | _ => return ()

/-- The distance of a time from the zero meridian, if it is given. -/
def offset? : Scan Unit := do
  if ← Scan.sees (fun c => c == 'Z' || c == 'z') then
    let _ ← Scan.next
  else if ← Scan.sees (fun c => c == '+' || c == '-') then
    let _ ← Scan.next
    let _ ← field 2 0 23
    Scan.char ':'
    let _ ← field 2 0 59

/-- A time follows the date, after the character that sets it off. -/
def timeFollows : List Char → Bool
  | c :: h :: m :: ':' :: _ =>
    (c == 'T' || c == 't' || c == ' ') && isAsciiDigit h && isAsciiDigit m
  | _ => false

/-- A date, perhaps with a time. -/
def date : Scan Unit := do
  let year ← field 4 0 9999
  Scan.char '-'
  let month ← field 2 1 12
  Scan.char '-'
  let _ ← field 2 1 (daysIn year month)
  if timeFollows (← Scan.rest) then
    let _ ← Scan.next
    time
    offset?

/-- The text begins with a date. -/
def dateFollows (cs : List Char) : Bool :=
  (cs.take 4).length = 4 && (cs.take 4).all isAsciiDigit && (cs.drop 4).head? == some '-'

/-- The text begins with a time. -/
def clockFollows (cs : List Char) : Bool :=
  (cs.take 2).length = 2 && (cs.take 2).all isAsciiDigit && (cs.drop 2).head? == some ':'

/-- A date, a time, or a number. -/
def scalar : Scan Unit := do
  let cs ← Scan.rest
  if dateFollows cs then date
  else if clockFollows cs then time
  else number

/-! ## Values -/

mutual

/-- A value that nests at most `fuel` deep; `levels` more brackets may be opened. -/
def valueFrom : (fuel levels : Nat) → Scan TomlItem
  | 0, _ => Scan.fail
  | fuel + 1, levels => do
    match ← Scan.peek? with
    | some '\"' => return .text (← textValue)
    | some '\'' => return .text (← textValue)
    | some '[' =>
      if levels = 0 then Scan.fail
      Scan.char '['
      return .array (← itemsFrom fuel (levels - 1))
    | some '\x7b' =>
      if levels = 0 then Scan.fail
      Scan.char '\x7b'
      blanks
      if ← Scan.text? "\x7d" then return .inline .defined []
      else return .inline .defined (← pairsFrom fuel (levels - 1) [])
    | _ =>
      if ← Scan.text? "true" then return .truth true
      else if ← Scan.text? "false" then return .truth false
      else
        scalar
        return .plain

/-- The items of an array up to its closing bracket. -/
def itemsFrom : (fuel levels : Nat) → Scan (List TomlItem)
  | 0, _ => Scan.fail
  | fuel + 1, levels => do
    gap
    if ← Scan.text? "]" then return []
    else
      let v ← valueFrom fuel levels
      gap
      if ← Scan.text? "," then
        let vs ← itemsFrom fuel levels
        return v :: vs
      else
        Scan.char ']'
        return [v]

/-- The entries of a table between braces, at least one, up to its closing brace. -/
def pairsFrom : (fuel levels : Nat) → TomlTable → Scan TomlTable
  | 0, _, _ => Scan.fail
  | fuel + 1, levels, es => do
    let ks ← key
    Scan.char '='
    blanks
    let v ← valueFrom fuel levels
    blanks
    match es.putInline ks v with
    | none => Scan.fail
    | some es' =>
      if ← Scan.text? "," then pairsFrom fuel levels es'
      else
        Scan.char '\x7d'
        return es'

end

/-- A value. -/
def value : Scan TomlItem := Scan.bounded fun n => valueFrom (2 * n) nestingLimit

/-! ## Documents -/

/-- The table that is being filled: its path, from the outermost on. -/
structure Filling where
  root : TomlTable
  current : List String
  deriving Inhabited

/-- A header, after its first bracket. -/
def header (s : Filling) : Scan Filling := do
  let repeated ← Scan.text? "["
  let path ← key
  Scan.text (if repeated then "]]" else "]")
  endOfLine
  match if repeated then append path s.root else define path s.root with
  | some root => return ⟨root, path⟩
  | none => Scan.fail

/-- An entry of the current table. -/
def entry (s : Filling) : Scan Filling := do
  let ks ← key
  Scan.char '='
  blanks
  let v ← value
  endOfLine
  match atPath .implied (put ks v) s.current .defined s.root with
  | some root => return { s with root }
  | none => Scan.fail

/-- The lines of a document, at most `fuel` of them. -/
def documentFrom (s : Filling) : (fuel : Nat) → Scan TomlTable
  | 0 => Scan.fail
  | fuel + 1 => do
    blanks
    if ← Scan.atEnd then return s.root
    else if ← lineEnd? then documentFrom s fuel
    else if ← Scan.sees (· == '#') then
      endOfLine
      documentFrom s fuel
    else if ← Scan.text? "[" then documentFrom (← header s) fuel
    else documentFrom (← entry s) fuel

/-- A document; a byte order mark may stand at its beginning. -/
def document : Scan TomlTable := do
  let _ ← Scan.text? "\uFEFF"
  Scan.bounded (documentFrom ⟨[], []⟩)

/-- The table that a text holds. -/
def read? (text : String) : Option TomlTable := Scan.whole? document text.toList

/-! ## Times as tables -/

/-- The key that makes a table a time, if it is the first one. -/
def timeKey : String := "$__toml_private_datetime"

/-- A time of the day as a text by itself; the day may end with hour 24. -/
def writtenTime : Scan Unit := do
  let _ ← field 2 0 24
  Scan.char ':'
  let _ ← field 2 0 59
  Scan.char ':'
  let _ ← field 2 0 60
  if ← Scan.text? "." then
    match ← Scan.takeWhile isAsciiDigit with
    | [] => Scan.fail
    | _ => return ()

/-- The distance from the zero meridian in a time as a text by itself: a day at most. -/
def writtenOffset? : Scan Unit := do
  if ← Scan.sees (fun c => c == 'Z' || c == 'z') then
    let _ ← Scan.next
  else if ← Scan.sees (fun c => c == '+' || c == '-') then
    let _ ← Scan.next
    let h ← field 2 0 99
    Scan.char ':'
    let m ← field 2 0 99
    if 24 * 60 < h * 60 + m then Scan.fail

/-- A date, a time, or both, as a text by itself. -/
def writtenDate : Scan Unit := do
  if ((← Scan.rest).drop 2).head? == some ':' then writtenTime
  else
    let year ← field 4 0 9999
    Scan.char '-'
    let month ← field 2 1 12
    Scan.char '-'
    let _ ← field 2 1 (daysIn year month)
    if ← Scan.sees (fun c => c == 'T' || c == 't' || c == ' ') then
      let _ ← Scan.next
      writtenTime
      writtenOffset?

/-- The text is a date, a time, or both. -/
def isWrittenTime (s : String) : Bool := (Scan.whole? writtenDate s.toList).isSome

end TomlTable

namespace TomlItem

/-- What the value under the key for times makes its table. -/
def asTime : TomlItem → Option TomlItem
  | .text s => if TomlTable.isWrittenTime s then some .plain else none
  | _ => none

mutual

/-- The item with the tables in it that stand for times made times, unless one of them stands for
none. -/
def withTimes : TomlItem → Option TomlItem
  | .array items => (withTimesAll items).map .array
  | .inline k ((key, v) :: es) =>
    if key = TomlTable.timeKey then asTime v
    else do
      let v' ← withTimes v
      return .inline k ((key, v') :: (← withTimesIn es))
  | .table k ((key, v) :: es) =>
    if key = TomlTable.timeKey then asTime v
    else do
      let v' ← withTimes v
      return .table k ((key, v') :: (← withTimesIn es))
  | .tables elements => (withTimesElements elements).map .array
  | t => some t

/-- `withTimes` for several items. -/
def withTimesAll : List TomlItem → Option (List TomlItem)
  | [] => some []
  | v :: vs => do
    let v' ← withTimes v
    return v' :: (← withTimesAll vs)

/-- `withTimes` for what stands under keys. -/
def withTimesIn : TomlTable → Option TomlTable
  | [] => some []
  | (key, v) :: es => do
    let v' ← withTimes v
    return (key, v') :: (← withTimesIn es)

/-- `withTimes` for the tables under a repeated header. -/
def withTimesElements : List TomlTable → Option (List TomlItem)
  | [] => some []
  | ((key, v) :: es) :: ts => do
    let t ←
      if key = TomlTable.timeKey then asTime v
      else do
        let v' ← withTimes v
        pure (.table .defined ((key, v') :: (← withTimesIn es)))
    return t :: (← withTimesElements ts)
  | [] :: ts => do return .table .defined [] :: (← withTimesElements ts)

end

end TomlItem

/-- The table that a text holds, its times read as such wherever they stand. -/
def TomlTable.readWithTimes? (text : String) : Option TomlTable :=
  (TomlTable.read? text).bind TomlItem.withTimesIn

/-- The text of an item, if it is one. -/
def TomlItem.text? : TomlItem → Option String
  | .text s => some s
  | _ => none

/-- The items of an array. -/
def TomlItem.items : TomlItem → List TomlItem
  | .array items => items
  | _ => []

/-- What stands under a key of an item, if it is a table. -/
def TomlItem.get? (key : String) : TomlItem → Option TomlItem
  | .inline _ es => es.lookup key
  | .table _ es => es.lookup key
  | _ => none

end DisplayGen.Format
