/-
**Starting to watch.**

Directories are watched by the one path that holds no links, which is also how changes are reported.
Directories to be ignored are resolved the same way if they exist, and else are only made to start
at the root.

* `WatchSettings.resolved`: the configuration with resolved paths;
* `WatchError.message`: a directory that cannot be watched, in words.
-/
import LiveReload.Files.Basic
import LiveReload.Log
import LiveReload.Watch.Watcher

namespace LiveReload

/-- A directory that cannot be watched. -/
structure WatchError where
  dir : Path
  fault : Fault
deriving DecidableEq, Repr

/-- A watch error in words. -/
def WatchError.message (error : WatchError) : String :=
  s!"failed to watch '{error.dir.text}': {error.fault.message}"

/-- The record of a directory that is watched from now on. -/
def Watcher.startRecord (dir : Path) : Record :=
  Watcher.say .info s!"Watching '{dir.text}' for changes"

/-- A path that starts at the root, without links if it leads to an entry. -/
def FileSystem.resolve (files : FileSystem) (path : Path) : Path :=
  match files.canonical path with
  | .ok path => path
  | .error _ => files.currentPath.join path

namespace WatchSettings

/-- Resolves directories up to the first that cannot be watched, and records those that can. -/
def resolveDirs (files : FileSystem) : List Path → List Record × Except WatchError (List Path)
  | [] => ([], .ok [])
  | dir :: rest =>
    match files.canonical dir with
    | .error fault => ([], .error ⟨dir, fault⟩)
    | .ok found =>
      let (records, resolved) := resolveDirs files rest
      (Watcher.startRecord found :: records, resolved.map fun dirs => found :: dirs)

/-- The configuration with resolved paths. -/
def resolved (config : WatchSettings) (files : FileSystem) :
    List Record × Except WatchError WatchSettings :=
  let (records, dirs) := resolveDirs files config.dirs
  (records, dirs.map fun dirs =>
    { config with dirs, ignoreDirs := config.ignoreDirs.map files.resolve })

end WatchSettings

end LiveReload
