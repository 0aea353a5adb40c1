/-
**What is watched.**

* `Exclusions.leaveOut`: paths that never count as a change, by name, extension or directory;
* `WatchSettings.ignores`: the same for paths that are text.
-/
import LiveReload.RawPath
import LiveReload.Time

namespace LiveReload

/-- What never counts as a change. -/
structure Exclusions where
  names : List String
  extensions : List String
  dirs : List RawPath
deriving DecidableEq, Repr

/-- The path never counts as a change. Names and extensions are compared as texts, so one that is no
text is none of those listed; directories are compared as bytes. -/
def Exclusions.leaveOut (exclusions : Exclusions) (path : RawPath) : Bool :=
  path.nameText?.any exclusions.names.contains ||
  path.extensionText?.any exclusions.extensions.contains ||
  exclusions.dirs.any path.startsWith

/-- Which directories are watched, for how long, and what does not count. -/
structure WatchSettings where
  /-- Directories that are watched with all that is below them. -/
  dirs : List Path
  /-- How long a wait without a time of its own lasts when nothing happens. -/
  pollTimeoutMs : Nat
  /-- How long it has to be quiet before a burst of changes is over. -/
  debounceMs : Nat
  ignoreNames : List String
  ignoreExtensions : List String
  ignoreDirs : List Path
  /-- How many errors in a row make a watcher unreliable. -/
  maxConsecutiveErrors : Nat
deriving DecidableEq, Repr

namespace WatchSettings

/-- The configuration when nothing is configured. -/
def standard : WatchSettings :=
  { dirs := [], pollTimeoutMs := 100, debounceMs := 100,
    ignoreNames := ["asset.h", "generated.rs"], ignoreExtensions := ["swp", "swx", "tmp"],
    ignoreDirs := [], maxConsecutiveErrors := 8 }

/-- The standard configuration for one directory. -/
def forDir (dir : Path) : WatchSettings := { standard with dirs := [dir] }

/-- How long a wait without a time of its own lasts. -/
def pollTimeout (config : WatchSettings) : Span := .ofMillis config.pollTimeoutMs

/-- How long it has to be quiet. -/
def debounce (config : WatchSettings) : Span := .ofMillis config.debounceMs

/-- What never counts as a change. -/
def exclusions (config : WatchSettings) : Exclusions :=
  ⟨config.ignoreNames, config.ignoreExtensions, config.ignoreDirs.map .ofPath⟩

/-- The path never counts as a change. -/
def ignores (config : WatchSettings) (path : Path) : Bool :=
  config.exclusions.leaveOut (.ofPath path)

end WatchSettings

end LiveReload
