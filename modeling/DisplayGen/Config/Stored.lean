import DisplayGen.Config
import DisplayGen.Disk.Work

/-!
# Stored configurations

A configuration is a file of its own. Reading it back does not check it (`Config.load`); a configuration that
is given as a text is checked when it is read (`Config.ofText`).
-/

namespace DisplayGen

namespace Config

/-- Writes a configuration to a file. -/
def save (c : Config) (path : String) : Work Unit :=
  Work.change s!"Failed to write {path}" fun d => d.write path c.toText

/-- The configuration that a file holds, unchecked. -/
def load (d : Disk) (path : String) : Except Cause Config :=
  match d.find path with
  | .error e => .error (.file e)
  | .ok _ =>
    match (d.readBytes path).toOption.bind ofBytes? with
    | some c => .ok c
    | none => .error .configText

/-- The configuration that a text holds, checked. -/
def ofText (text : String) : Except Cause Config :=
  match read? text with
  | some c => c.build.mapError .config
  | none => .error .configText

end Config

end DisplayGen
