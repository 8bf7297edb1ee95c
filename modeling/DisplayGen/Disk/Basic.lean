import DisplayGen.Disk.Path
import DisplayGen.Error
import DisplayGen.Text.Utf8

/-!
# Files and directories

A `Disk` holds the files and directories below a root. Operations take paths and fail as they do on
a file system: where a part of the path is missing or is a file, where a directory stands in the
place of a file, and the other way round. A file remembers whether it has been written since the
last look (`Disk.age`).
-/

namespace DisplayGen

/-- What a file holds: a text, or bytes that are none. -/
inductive FileContent where
  | text (s : String)
  | bytes (bs : List Nat)
  deriving DecidableEq, Repr, Inhabited

/-- The bytes of a file. -/
def FileContent.toBytes : FileContent → List Nat
  | text s => Text.encode s
  | bytes bs => bs

/-- What stands at a place. -/
inductive DiskNode where
  | directory
  | file (content : FileContent) (written : Bool)
  deriving DecidableEq, Repr, Inhabited

/-- Files and directories below a root, each with its place. -/
structure Disk where
  root : String
  nodes : List (List String × DiskNode)
  deriving DecidableEq, Repr, Inhabited

namespace Disk

/-- What stands at a place. The root is a directory. -/
def node? (d : Disk) (place : List String) : Option DiskNode :=
  if place.isEmpty then some .directory else d.nodes.lookup place

/-- The disk with something put at a place. -/
def setNode (d : Disk) (place : List String) (n : DiskNode) : Disk :=
  { d with nodes := (place, n) :: d.nodes.filter fun p => p.1 ≠ place }

/-- The place is a directory; otherwise why it is none. -/
def checkDirectory (d : Disk) (place : List String) : Except FileError Unit :=
  match d.node? place with
  | some .directory => .ok ()
  | some (.file _ _) => .error .notADirectory
  | none => .error .notFound

/-- The place that parts of a path lead to from a directory. Nothing above the root is known. -/
def follow (d : Disk) (place : List String) : List PathPart → Except FileError (List String)
  | [] => .ok place
  | .root :: r => follow d [] r
  | .current :: r =>
    match d.checkDirectory place with
    | .ok () => follow d place r
    | .error e => .error e
  | .parent :: r =>
    match d.checkDirectory place with
    | .ok () => if place.isEmpty then .error .notFound else follow d place.dropLast r
    | .error e => .error e
  | .name n :: r =>
    match d.checkDirectory place with
    | .ok () => follow d (place ++ [n]) r
    | .error e => .error e

/-- The place of a path; nothing need stand there. -/
def locate (d : Disk) (path : String) : Except FileError (List String) :=
  match below? d.root path with
  | some parts => d.follow [] parts
  | none => .error .notFound

/-- What stands at a path. -/
def find (d : Disk) (path : String) : Except FileError DiskNode :=
  match d.locate path with
  | .error e => .error e
  | .ok place =>
    match d.node? place with
    | some n => .ok n
    | none => .error .notFound

/-- Something stands at a path. -/
def contains (d : Disk) (path : String) : Bool :=
  match d.find path with
  | .ok _ => true
  | .error _ => false

/-! ## Reading -/

/-- What the file at a place holds. -/
def contentAt (d : Disk) (place : List String) : Except FileError FileContent :=
  match d.node? place with
  | some .directory => .error .isADirectory
  | some (.file content _) => .ok content
  | none => .error .notFound

/-- The text of the file at a place. -/
def textAt (d : Disk) (place : List String) : Except FileError String :=
  match d.contentAt place with
  | .ok (.text s) => .ok s
  | .ok (.bytes _) => .error .invalidData
  | .error e => .error e

/-- The text of the file at a path. -/
def readText (d : Disk) (path : String) : Except FileError String :=
  match d.locate path with
  | .ok place => d.textAt place
  | .error e => .error e

/-- The bytes of the file at a path. -/
def readBytes (d : Disk) (path : String) : Except FileError (List Nat) :=
  match d.locate path with
  | .error e => .error e
  | .ok place =>
    match d.contentAt place with
    | .ok content => .ok content.toBytes
    | .error e => .error e

/-! ## Writing -/

/-- Writes a file, in a directory that must be there. -/
def put (d : Disk) (path : String) (content : FileContent) : Except FileError Disk :=
  match d.locate path with
  | .error e => .error e
  | .ok place =>
    match d.node? place with
    | some .directory => .error .isADirectory
    | _ => .ok (d.setNode place (.file content true))

/-- Writes a text to a file. -/
def write (d : Disk) (path text : String) : Except FileError Disk := d.put path (.text text)

/-- Removes a file. -/
def removeFile (d : Disk) (path : String) : Except FileError Disk :=
  match d.locate path with
  | .error e => .error e
  | .ok place =>
    match d.node? place with
    | some .directory => .error .isADirectory
    | some (.file _ _) => .ok { d with nodes := d.nodes.filter fun p => p.1 ≠ place }
    | none => .error .notFound

/-- Removes what stands at a path with all that stands below it, if anything does. -/
def removeAll (d : Disk) (path : String) : Disk :=
  match d.locate path with
  | .error _ => d
  | .ok place => { d with nodes := d.nodes.filter fun p => !place.isPrefixOf p.1 }

/-! ## Directories -/

/-- Makes a directory in one that must be there. -/
def makeDir (d : Disk) (parts : List PathPart) : Except FileError Disk :=
  match parts.getLast? with
  | none => .error .alreadyExists
  | some last =>
    match d.follow [] parts.dropLast with
    | .error e => .error e
    | .ok parent =>
      match d.checkDirectory parent with
      | .error e => .error e
      | .ok () =>
        match last with
        | .name n =>
          match d.node? (parent ++ [n]) with
          | some _ => .error .alreadyExists
          | none => .ok (d.setNode (parent ++ [n]) .directory)
        | _ => .error .alreadyExists

/-- The parts lead to a directory. -/
def leadsToDirectory (d : Disk) (parts : List PathPart) : Bool :=
  match d.follow [] parts with
  | .error _ => false
  | .ok place => d.node? place == some .directory

/-- Parts without those at the end that stay where they are. -/
def dropCurrent (parts : List PathPart) : List PathPart :=
  (parts.reverse.dropWhile (· == .current)).reverse

/-- Makes a directory and those that it lies in; at most `fuel` of them. -/
def makeDirsFrom : (fuel : Nat) → Disk → List PathPart → Except FileError Disk
  | 0, _, _ => .error .notFound
  | fuel + 1, d, parts =>
    match d.makeDir parts with
    | .ok d' => .ok d'
    | .error .notFound =>
      match makeDirsFrom fuel d (dropCurrent parts).dropLast with
      | .error e => .error e
      | .ok d' =>
        match d'.makeDir parts with
        | .ok d'' => .ok d''
        | .error e => if d'.leadsToDirectory parts then .ok d' else .error e
    | .error e => if d.leadsToDirectory parts then .ok d else .error e

/-- Makes a directory and those that it lies in. A stroke at the end of the path does not count. -/
def makeDirs (d : Disk) (path : String) : Except FileError Disk :=
  let path := if path.endsWith "/" then path.dropEnd 1 |>.toString else path
  match below? d.root path with
  | some parts => makeDirsFrom (parts.length + 1) d parts
  | none => .error .notFound

/-! ## Looking around -/

/-- The order of places: directory by directory, each by name. -/
def placeLe : List String → List String → Bool
  | [], _ => true
  | _ :: _, [] => false
  | a :: as, b :: bs => if a = b then placeLe as bs else a < b

/-- The places of the files below a place, in order. -/
def filesBelow (d : Disk) (place : List String) : List (List String) :=
  let files := d.nodes.filterMap fun
    | (p, .file _ _) => if place.isPrefixOf p then some p else none
    | (_, .directory) => none
  files.mergeSort placeLe

/-- The place as a path from the root. -/
def shown (place : List String) : String := Text.joinWith "/" place

/-- The path of a place. -/
def pathOf (d : Disk) (place : List String) : String :=
  d.root ++ String.join (place.map ("/" ++ ·))

/-- Forgets what has been written. -/
def age (d : Disk) : Disk :=
  { d with
    nodes := d.nodes.map fun
      | (p, .file content _) => (p, .file content false)
      | (p, .directory) => (p, .directory) }

/-- The files that have been written since the last look, in order. -/
def fresh (d : Disk) : List (List String) :=
  (d.filesBelow []).filter fun p =>
    match d.node? p with
    | some (.file _ written) => written
    | _ => false

end Disk

end DisplayGen
