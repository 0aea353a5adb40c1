/-
**Building.**

* `BuildRequest.targets`: one run of a compiler for each platform; several of them go to places of
  their own;
* `BuildRequest.perform`: all of them, up to the first that fails.
-/
import LiveReload.Build.Builder
import LiveReload.Cli.Command
import LiveReload.Commands.Error

namespace LiveReload

/-- What runs of modules need to build. -/
def BuildSettings.builder (settings : BuildSettings) (session : Nat) : Builder :=
  .new settings.toolchain (.new settings.outDir settings.artifactStem session) settings.retain

namespace BuildRequest

/-- Where the artifact of a platform goes. -/
def outputFor (request : BuildRequest) (platform : Platform) : Path :=
  if 1 < request.platforms.length then platform.artifactAt request.output request.loadable
  else request.output

/-- The runs of compilers that a request asks for. -/
def targets (request : BuildRequest) : List CompileJob :=
  request.platforms.map fun platform =>
    { input := request.input, output := request.outputFor platform, platform,
      release := request.release, loadable := request.loadable }

/-- Runs compilers until one fails. -/
def buildAll (config : ToolchainSettings) : List CompileJob → Machine → Outcome × Machine
  | [], machine => (.ok 0, machine)
  | job :: rest, machine =>
    match Builder.compile config job machine with
    | (.error error, machine) => (.error (.build job.input job.platform error), machine)
    | (.ok _, machine) => buildAll config rest machine

/-- Builds once. -/
def perform (request : BuildRequest) (settings : Settings) (machine : Machine) :
    Outcome × Machine :=
  buildAll settings.build.toolchain request.targets machine

end BuildRequest

end LiveReload
