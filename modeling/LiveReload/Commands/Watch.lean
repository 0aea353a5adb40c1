/-
**Building after every change.**

* `WatchSettings.leavingOut`: what does not count because it is built;
* `BuildRequest.watch`: builds at once and after every change, for as long as it is let.
-/
import LiveReload.Commands.Build
import LiveReload.Commands.Vigil

namespace LiveReload

/-- Leaves out the names that are shown for the files that are built. -/
def WatchSettings.leavingOut (config : WatchSettings) (outputs : List RawPath) : WatchSettings :=
  { config with ignoreNames := config.ignoreNames ++ outputs.filterMap RawPath.shownName? }

namespace BuildRequest

/-- What is watched: the artifacts do not count. -/
def watchSettings (request : BuildRequest) (settings : Settings) : WatchSettings :=
  (settings.watchFor request.input).leavingOut (request.targets.map fun job => .ofPath job.output)

/-- The record of a failed build. -/
def failureRecord (error : BuildError) : Record := Commands.say .error error.message

/-- Runs all compilers; a failure is recorded. -/
def rebuild (config : ToolchainSettings) : List CompileJob → Machine → Machine
  | [], machine => machine
  | job :: rest, machine =>
    match Builder.compile config job machine with
    | (.error error, machine) => rebuild config rest (machine.record (failureRecord error))
    | (.ok _, machine) => rebuild config rest machine

/-- Waits and builds until a wait has no answer. -/
def keepBuilding (config : ToolchainSettings) (targets : List CompileJob) :
    Nat → Vigil → Vigil
  | 0, vigil => vigil
  | waits + 1, vigil =>
    match vigil.wait vigil.watcher.config.pollTimeout with
    | (none, vigil) => vigil
    | (some false, vigil) => keepBuilding config targets waits vigil
    | (some true, vigil) =>
      keepBuilding config targets waits
        { vigil with machine := rebuild config targets vigil.machine }

/-- The record of the start. -/
def watchRecord (request : BuildRequest) : Record :=
  Commands.say .info s!"Watching for changes to rebuild '{request.output.text}'"

/-- Builds at once and after every change. -/
def watch (request : BuildRequest) (settings : Settings) (edit : Option Edit)
    (halt : Option Halt) (machine : Machine) : Option Outcome × Machine :=
  match Vigil.start machine (request.watchSettings settings) edit halt with
  | (.error error, machine) => (some (.error (.watching error)), machine)
  | (.ok vigil, _) =>
    let config := settings.build.toolchain
    let built := rebuild config request.targets (vigil.machine.record (watchRecord request))
    (none, (keepBuilding config request.targets Vigil.waitLimit
      { vigil with machine := built }).machine)

end BuildRequest

end LiveReload
