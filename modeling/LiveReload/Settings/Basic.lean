/-
**Project settings.**

Settings have three sections: what is watched, how sources are built, and how the reload loop runs.

* `Settings.watchFor`: what is watched for one input; its directory always is, and the
  directory of the artifacts never counts.
-/
import LiveReload.Build.Toolchain
import LiveReload.Watch.Settings

namespace LiveReload

/-- How sources are built and where artifacts go. -/
structure BuildSettings where
  outDir : Path
  /-- What the names of artifacts start with. -/
  artifactStem : String
  /-- Artifacts that are not current any more stay. -/
  retain : Bool
  toolchain : ToolchainSettings

/-- The build settings when nothing is set. -/
def BuildSettings.standard : BuildSettings :=
  { outDir := ⟨"out"⟩, artifactStem := "hot", retain := false, toolchain := .standard }

/-- How the reload loop runs. -/
structure RunSettings where
  /-- The delay between ticks when the module asks for none, in milliseconds. -/
  defaultWakeMs : Nat
  /-- The seed of the random numbers, if they are to be the same in every run. -/
  seed : Option Nat
deriving DecidableEq, Repr

/-- The run settings when nothing is set. -/
def RunSettings.standard : RunSettings := ⟨100, none⟩

/-- The delay between ticks when the module asks for none. -/
def RunSettings.defaultWake (settings : RunSettings) : Span := .ofMillis settings.defaultWakeMs

/-- All settings of a project. -/
structure Settings where
  watch : WatchSettings
  build : BuildSettings
  run : RunSettings

namespace Settings

/-- The settings when nothing is set. -/
def standard : Settings := ⟨.standard, .standard, .standard⟩

/-- The directory of an input. -/
def inputDir (input : Path) : Path :=
  match input.parent with
  | none => ⟨"."⟩
  | some parent => if parent.text.isEmpty then ⟨"."⟩ else parent

/-- Watches a directory too, unless it lies in one that is watched already. -/
def withDir (config : WatchSettings) (dir : Path) : WatchSettings :=
  if config.dirs.any dir.startsWith then config else { config with dirs := config.dirs ++ [dir] }

/-- What is watched for an input. -/
def watchFor (settings : Settings) (input : Path) : WatchSettings :=
  let config := withDir settings.watch (inputDir input)
  { config with ignoreDirs := config.ignoreDirs ++ [settings.build.outDir] }

end Settings

end LiveReload
