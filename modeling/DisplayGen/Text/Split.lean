/-!
# Pieces of a text

Texts are cut into pieces and joined again at a separator of two characters (`::` in paths). The
functions on lists of characters carry the definitions; the ones on strings wrap them.
-/

namespace DisplayGen.Text

/-- Puts a character in front of the first piece. -/
def consFirst (c : Char) : List (List Char) → List (List Char)
  | [] => [[c]]
  | p :: ps => (c :: p) :: ps

/-- The parts of a text between the occurrences of a character. -/
def splitAtChar (c : Char) : List Char → List (List Char)
  | [] => [[]]
  | d :: r => if d = c then [] :: splitAtChar c r else consFirst d (splitAtChar c r)

/-- The pieces of a text between the occurrences of `::`, found from the left. There is always at
least one piece. -/
def splitColons : List Char → List (List Char)
  | [] => [[]]
  | ':' :: ':' :: r => [] :: splitColons r
  | c :: r => consFirst c (splitColons r)

/-- The pieces of a string between the occurrences of `::`. -/
def splitPath (s : String) : List String := (splitColons s.toList).map String.ofList

/-- The pieces with the separator between each two. -/
def joinWith (sep : String) : List String → String
  | [] => ""
  | [p] => p
  | p :: q :: ps => p ++ sep ++ joinWith sep (q :: ps)

/-- The pieces joined by `::`. -/
def joinPath (pieces : List String) : String := joinWith "::" pieces

/-- The text with each `::` written as one dot. -/
def dotColons : List Char → List Char
  | [] => []
  | ':' :: ':' :: r => '.' :: dotColons r
  | c :: r => c :: dotColons r

/-- The string with each `::` written as one dot. -/
def dotted (s : String) : String := String.ofList (dotColons s.toList)

/-- What is left of a list after a given beginning, if it begins so. -/
def afterStart? {α : Type} [DecidableEq α] : List α → List α → Option (List α)
  | [], r => some r
  | _ :: _, [] => none
  | a :: as, b :: bs => if a = b then afterStart? as bs else none

/-- The name without a leading `r#`. -/
def unraw (s : String) : String :=
  match afterStart? ['r', '#'] s.toList with
  | some r => String.ofList r
  | none => s

/-- The string with each occurrence of one character replaced by another. -/
def replaceChar (a b : Char) (s : String) : String :=
  String.ofList (s.toList.map fun c => if c = a then b else c)

end DisplayGen.Text
