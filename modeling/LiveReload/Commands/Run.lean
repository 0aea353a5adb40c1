/-
**Keeping a module running.**

The reload loop is run over a machine: builds are compilers run on it, modules are libraries among
its files, and waits are for changes of them.

* `LiveHost.host`: the host that a machine is;
* `RunRequest.perform`: a run up to the exit that the module asks for.
-/
import LiveReload.Commands.Build
import LiveReload.Commands.Vigil
import LiveReload.Decimal.Rounded
import LiveReload.Module.LibraryLoader
import LiveReload.Reload.Reloader
import LiveReload.Settings.HostLibrary

namespace LiveReload

/-- A machine that modules run on. -/
structure LiveHost where
  vigil : Vigil
  builder : Builder
  loader : LibraryLoader
  /-- The counts that initializers made, in the order they were made. -/
  counts : List Nat

namespace LiveHost

/-- The path of the plan that libraries follow. -/
def planPath : Path := ⟨"plan"⟩

/-- Adds a record. -/
def record (record : Record) (host : LiveHost) : LiveHost :=
  { host with vigil.machine := host.vigil.machine.record record }

/-- Builds a module. -/
def build (input : Path) (host : LiveHost) : Except BuildError Path × LiveHost :=
  let (answer, builder, machine) := host.builder.makeModule input host.vigil.machine
  (answer, { host with builder, vigil := { host.vigil with machine } })

/-- Loads a library. -/
def load (path : Path) (host : LiveHost) : Except LoadError Module × LiveHost :=
  match host.loader.load host.vigil.machine.files path with
  | (.error error, loader) => (.error error, { host with loader })
  | (.ok module, loader) =>
    (.ok module, record (loader.loadedRecord path) { host with loader })

/-- The main functions of these libraries do nothing. -/
def callMain (_ : Address) (context : Context) (host : LiveHost) : Context × LiveHost :=
  (context, host)

/-- An initializer makes a count, which its answer stands for. -/
def callInit (address : Address) (host : LiveHost) : Nat × LiveHost :=
  let first := ((host.loader.libraryAt? address).map PlannedLibrary.start).getD 0
  (host.counts.length + 1, { host with counts := host.counts ++ [first] })

/-- What the plan says, which is nothing if there is none. -/
def planText (files : FileSystem) : String := ((files.readText planPath).toOption).getD ""

/-- Marks a file that a line of the plan names. -/
def mark (file : Option Path) (files : FileSystem) : FileSystem :=
  match file with
  | none => files
  | some path => ((files.append path "x".toUTF8.data.toList).toOption).getD files

/-- An update counts one up and obeys the line of that number. -/
def callUpdate (address : Address) (state : Nat) (host : LiveHost) : UInt32 × LiveHost :=
  let count := (host.counts[state - 1]?).getD 0 + 1
  let files := host.vigil.machine.files
  let line := PlannedLibrary.lineOf (planText files) count
  let library := (host.loader.libraryAt? address).getD .bare
  (library.answer line.result,
    { host with
      counts := host.counts.set (state - 1) count
      vigil.machine.files := mark line.file files })

/-- Waits for a change. -/
def wait (delay : Span) (host : LiveHost) : Option Bool × LiveHost :=
  let (answer, vigil) := host.vigil.wait delay
  (answer, { host with vigil })

/-- The host that a machine is. -/
def host : Host LiveHost := { record, build, load, callMain, callInit, callUpdate, wait }

end LiveHost

/-- A module that is to be kept running. -/
structure RunRequest where
  main : Path
  args : List String
  seed : Option Nat
  /-- The directory of the host's own program. -/
  hostDir : Path
  /-- What sets the artifacts of this run apart. -/
  session : Nat

namespace RunRequest

/-- The seed when none is set. -/
def standardSeed : Nat := 0

/-- The seed of a run. -/
def seedIn (request : RunRequest) (settings : Settings) : Nat :=
  (request.seed.or settings.run.seed).getD standardSeed

/-- The record of the seed. -/
def seedRecord (seed : Nat) : Record := Commands.say .debug s!"Random seed: {seed}"

/-- The context of the module. -/
def context (request : RunRequest) (settings : Settings) : Context :=
  let seed := request.seedIn settings
  .new (request.main.text :: request.args) (UInt64.ofNat seed) (.writing .unlimited) .spaced

/-- The record of the memory that was used. -/
def memoryRecord (stats : ChunkCounts) : Record :=
  let size := stats.systemBytes / (1024 * 1024)
  let reused := Decimal.whole (stats.reuseRatio * 100)
  Commands.say .info <|
    s!"Chunks: {stats.systemAllocations} from the system ({size} MiB), " ++
    s!"{stats.cacheHits} reused ({reused}%), {stats.inUse} in use, {stats.cached} cached"

/-- The record of module output that could not be passed on. -/
def flushRecord (fault : Fault) : Record :=
  Commands.say .warn s!"Failed to flush module output: {fault.message}"

/-- What follows a run: output is passed on and the use of memory is recorded. -/
def conclude (context : Context) (machine : Machine) : Machine :=
  let (fault, _) := context.output.flush
  let flushed := match fault with
    | none => machine
    | some fault => machine.record (flushRecord fault)
  flushed.record (memoryRecord context.chunks.stats)

/-- The reload loop over a watched machine. -/
def runLoop (request : RunRequest) (settings : Settings) (vigil : Vigil) :
    Option Outcome × Machine :=
  let session : Session LiveHost :=
    { reloader := .new request.main settings.run.defaultWake
      context := request.context settings
      world :=
        { vigil, builder := settings.build.builder request.session, loader := .empty,
          counts := [] } }
  match Reloader.run LiveHost.host Vigil.waitLimit session with
  | (some (.exit code), session) =>
    (some (.ok code), conclude session.context session.world.vigil.machine)
  | (_, session) => (none, session.world.vigil.machine)

/-- Keeps a module running. -/
def perform (request : RunRequest) (settings : Settings) (edit : Option Edit)
    (halt : Option Halt) (machine : Machine) : Option Outcome × Machine :=
  let machine := machine.recordAll (settings.build.linkRecords machine.files request.hostDir)
  let settings :=
    { settings with build := settings.build.linkHost machine.files request.hostDir }
  match Vigil.start machine (settings.watchFor request.main) edit halt with
  | (.error error, machine) => (some (.error (.watching error)), machine)
  | (.ok vigil, _) =>
    let machine := vigil.machine.record (seedRecord (request.seedIn settings))
    request.runLoop settings { vigil with machine }

end RunRequest

end LiveReload
