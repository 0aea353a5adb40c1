/-
**Builds.**

A build makes the directory of the artifact, runs the compiler and reads its end. A failed build
leaves nothing at the place of the artifact. Modules are built to a new place each time, and the
artifact of the last successful build gives way to the next one.

* `Builder.compile`: one run of a compiler;
* `Builder.makeModule`: a module for the reload loop.
-/
import LiveReload.Build.ArtifactNames
import LiveReload.Build.CommandLine
import LiveReload.Process.Machine
import LiveReload.Text.Blank

namespace LiveReload

/-- Runs compilers, and remembers the artifact of the last module. -/
structure Builder where
  config : ToolchainSettings
  names : ArtifactNames
  /-- Artifacts that are not current any more stay. -/
  retain : Bool
  previous : Option Path

namespace Builder

/-- A builder that has built nothing. -/
def new (config : ToolchainSettings) (names : ArtifactNames) (retain : Bool) : Builder :=
  ⟨config, names, retain, none⟩

/-- A record of the builder. -/
def say (severity : Severity) (text : String) : Record :=
  ⟨severity, "ember_build::dispatcher", text⟩

/-- The record of a compiler that is about to run. -/
def startRecord (job : CompileJob) : Record :=
  let kind := (if job.loadable then "loadable, " else "") ++
    (if job.release then "release" else "debug")
  let target := job.platform.name
  say .info s!"Compiling '{job.input.text}' to '{job.output.text}' ({kind}, {target})"

/-- The record of the command line. -/
def commandRecord (program : String) (arguments : List String) : Record :=
  let words := String.intercalate " " arguments
  say .debug s!"> {program} {words}"

/-- The record of a successful build. -/
def successRecord (elapsed : Span) : Record :=
  say .info s!"Build completed in {elapsed.seconds}"

/-- The record of a failed build. -/
def failureRecord (elapsed : Span) (diagnostics : String) : Record :=
  say .error s!"Build failed after {elapsed.seconds}:\n{diagnostics}"

/-- All that a compiler printed, without blanks at the end. -/
def diagnosticsOf (finished : Finished) : String :=
  Blank.trimEnd (Utf8.decodeLossy finished.stdout ++ Utf8.decodeLossy finished.stderr)

/-- The directory that an artifact needs. -/
def outputDir (job : CompileJob) : Option Path :=
  job.output.parent.filter fun dir => !dir.text.isEmpty

/-- Makes the directory of an artifact. -/
def prepare (job : CompileJob) (machine : Machine) : Option BuildError × Machine :=
  match outputDir job with
  | none => (none, machine)
  | some dir =>
    let (fault, machine) := machine.change fun files => files.makeDirectories dir
    (fault.map (BuildError.outputDir dir), machine)

/-- Removes a file if there is one. -/
def removeIfThere (path : Path) (machine : Machine) : Machine :=
  match machine.files.remove path with
  | .ok files => { machine with files }.record (say .debug s!"Removed '{path.text}'")
  | .error fault =>
    if fault.isMissing then machine
    else machine.record (say .warn s!"Failed to remove '{path.text}': {fault.message}")

/-- Reads the end of a compiler. -/
def conclude (job : CompileJob) (program : String) (finished : Finished)
    (machine : Machine) : Except BuildError Unit × Machine :=
  let diagnostics := diagnosticsOf finished
  if finished.status.isSuccess then
    let told := if diagnostics.isEmpty then machine else machine.record (say .debug diagnostics)
    (.ok (), told.record (successRecord finished.elapsed))
  else
    (.error (.failed program finished.status.text diagnostics),
      removeIfThere job.output (machine.record (failureRecord finished.elapsed diagnostics)))

/-- Runs a compiler. -/
def launch (job : CompileJob) (program : String) (arguments : List String)
    (machine : Machine) : Except BuildError Unit × Machine :=
  let told := (machine.record (startRecord job)).record (commandRecord program arguments)
  match told.run program arguments with
  | (.error fault, machine) => (.error (.spawn program fault), machine)
  | (.ok finished, machine) => conclude job program finished machine

/-- One run of a compiler. -/
def compile (config : ToolchainSettings) (job : CompileJob) (machine : Machine) :
    Except BuildError Unit × Machine :=
  match config.toolchainOf job.input with
  | .error error => (.error error, machine)
  | .ok toolchain =>
    match prepare job machine with
    | (some error, machine) => (.error error, machine)
    | (none, machine) =>
      launch job (config.program toolchain) (toolchain.commandLine job config) machine

/-- Removes the artifact of the last module, unless artifacts are retained. -/
def retire (builder : Builder) (machine : Machine) : Machine :=
  match builder.previous with
  | none => machine
  | some previous =>
    if builder.retain then machine
    else match machine.files.remove previous with
      | .ok files => { machine with files }
      | .error fault => machine.record (say .debug s!"Kept '{previous.text}': {fault.message}")

/-- Builds a module to a new place and answers the place. -/
def makeModule (builder : Builder) (input : Path) (machine : Machine) :
    Except BuildError Path × Builder × Machine :=
  let (output, names) := builder.names.next
  match compile builder.config (.forModule input output) machine with
  | (.error error, machine) => (.error error, { builder with names }, machine)
  | (.ok _, machine) =>
    (.ok output, { builder with names, previous := some output }, builder.retire machine)

end Builder

end LiveReload
