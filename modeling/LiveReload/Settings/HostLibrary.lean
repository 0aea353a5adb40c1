/-
**Libraries of the host.**

Modules are built against the same core library as the host, which lies in a directory next to the
host's program. The newest library of the right name is linked, unless the settings name one.

* `HostLibrary.newest?`: the newest of the entries with such a name;
* `BuildSettings.linkHost`: the settings that link it.
-/
import LiveReload.Files.Basic
import LiveReload.Log
import LiveReload.Settings.Basic

namespace LiveReload

namespace HostLibrary

/-- The name that the library is linked under. -/
def crate : String := "ember_core"

/-- The name is one of the core library. -/
def isCoreName (name : String) : Bool :=
  "libember_core-".toList.isPrefixOf name.toList && ".rlib".toList.isSuffixOf name.toList

/-- The later of two entries; of entries of one time, the second. -/
def later (a b : String × Node) : String × Node :=
  if a.2.modified ≤ b.2.modified then b else a

/-- The entry that changed last. -/
def latest? : List (String × Node) → Option (String × Node)
  | [] => none
  | entry :: rest => some (rest.foldl later entry)

/-- The core libraries among the entries of a directory; the time of an entry is asked for by its
path as a whole. -/
def librariesIn (dir : Path) (entries : List (String × Node)) : List (String × Node) :=
  entries.filter fun entry => isCoreName entry.1 && !FileSystem.tooLong (dir.join ⟨entry.1⟩)

/-- The newest core library of a directory. -/
def newest? (files : FileSystem) (dir : Path) : Option Path :=
  match files.find dir with
  | .error _ => none
  | .ok (_, node) =>
    (latest? (librariesIn dir node.entries)).map fun entry => dir.join ⟨entry.1⟩

/-- The directory of libraries next to the program in `exeDir`. -/
def dirOf (exeDir : Path) : Path := exeDir.join ⟨"deps"⟩

/-- The record of a search. -/
def searchRecord (dir : Path) (found : Option Path) : Record :=
  ⟨.debug, "ember_runtime::config",
    match found with
    | none => s!"No ember_core rlib next to the host in '{dir.text}'"
    | some library => s!"Linking modules against '{library.text}'"⟩

end HostLibrary

/-- A list of paths with one more, unless it is there already. -/
def Path.addTo (path : Path) (paths : List Path) : List Path :=
  if paths.any path.same then paths else paths ++ [path]

/-- The settings that link the core library next to the program in `exeDir`. -/
def BuildSettings.linkHost (settings : BuildSettings) (files : FileSystem) (exeDir : Path) :
    BuildSettings :=
  if settings.toolchain.externs.has HostLibrary.crate then settings
  else
    let deps := HostLibrary.dirOf exeDir
    match HostLibrary.newest? files deps with
    | none => settings
    | some library =>
      { settings with
        toolchain :=
          { settings.toolchain with
            externs := settings.toolchain.externs.put HostLibrary.crate library
            libraryDirs := deps.addTo settings.toolchain.libraryDirs } }

/-- What is recorded of the search for the core library, if there is one. -/
def BuildSettings.linkRecords (settings : BuildSettings) (files : FileSystem) (exeDir : Path) :
    List Record :=
  if settings.toolchain.externs.has HostLibrary.crate then []
  else
    let deps := HostLibrary.dirOf exeDir
    [HostLibrary.searchRecord deps (HostLibrary.newest? files deps)]

end LiveReload
