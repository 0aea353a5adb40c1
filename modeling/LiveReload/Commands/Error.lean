/-
**Why a command fails.**
-/
import LiveReload.Process.Status
import LiveReload.Settings.Load
import LiveReload.Watch.Setup

namespace LiveReload

/-- Why a command fails. -/
inductive CommandError
  | settings (error : SettingsError)
  /-- A build for a platform. -/
  | build (input : Path) (platform : Platform) (error : BuildError)
  | watching (error : WatchError)
  /-- A tool could not be started. -/
  | tool (program : String) (fault : Fault)
  /-- A tool ended without success. -/
  | task (name : String) (elapsed : Span) (status : Status)
deriving DecidableEq, Repr

/-- An error with the faults behind it in words, from the outside in. -/
def CommandError.message : CommandError → String
  | settings error => error.message
  | build input platform error =>
    let causes := (error.cause.map fun fault => s!": {fault.message}").getD ""
    s!"Failed to build '{input.text}' for {platform.name}: {error.message}{causes}"
  | watching error =>
    s!"Failed to establish the file watcher: {error.message}: {error.fault.message}"
  | tool program fault => s!"Failed to execute {program}: {fault.message}"
  | task name elapsed status =>
    s!"{name} failed after {elapsed.seconds} with status: {status.text}"

/-- What the program ended with. -/
abbrev Outcome := Except CommandError Int

/-- A record of a command. -/
def Commands.say (severity : Severity) (text : String) : Record :=
  ⟨severity, "ember_runtime::commands", text⟩

end LiveReload
