/-
**Settings of a project.**

Settings are read from a file. Without the file everything has its standard value; a file that
cannot be read or understood is an error.

* `Settings.load`: the settings of a path, with the record of where they come from.
-/
import LiveReload.Files.Basic
import LiveReload.Log
import LiveReload.Settings.Decode

namespace LiveReload

/-- Why there are no settings. -/
inductive SettingsError
  /-- The file cannot be read. -/
  | unreadable (path : Path) (fault : Fault)
  /-- The file holds no settings. -/
  | malformed (path : Path)
deriving DecidableEq, Repr

/-- A settings error in words. -/
def SettingsError.message : SettingsError → String
  | unreadable path fault =>
    s!"Failed to read configuration file at '{path.text}': {fault.message}"
  | malformed path => s!"Failed to parse TOML from '{path.text}'"

namespace Settings

/-- A record about settings. -/
def say (text : String) : Record := ⟨.info, "ember_runtime::config", text⟩

/-- The record of standard settings. -/
def absentRecord (path : Path) : Record :=
  say s!"No '{path.text}' found. Using default configuration."

/-- The record of a file of settings. -/
def foundRecord (path : Path) : Record := say s!"Found '{path.text}'. Loading configuration."

/-- The settings of a file that exists. -/
def read (files : FileSystem) (path : Path) : Except SettingsError Settings :=
  match files.readText path with
  | .error fault => .error (.unreadable path fault)
  | .ok text =>
    match ofText? text with
    | none => .error (.malformed path)
    | some settings => .ok settings

/-- The settings of a path. -/
def load (files : FileSystem) (path : Path) : Record × Except SettingsError Settings :=
  if files.exists? path then (foundRecord path, read files path)
  else (absentRecord path, .ok standard)

end Settings

end LiveReload
