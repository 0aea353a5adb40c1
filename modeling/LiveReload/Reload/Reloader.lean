/-
**The reload loop.**

A `Reloader` keeps one module running. At the first tick, and at the first tick after a change was
reported, it builds the sources, loads the artifact and resolves its entry point; only when all
three succeed does the new generation replace the active one. Then every tick calls the active entry
point once.

The loop is written against a `Host`, which builds, loads, calls into modules, waits and records,
and keeps a state of its own.

* `Reloader.attempt`: one attempt at a new generation;
* `Reloader.tick`: one tick;
* `Reloader.run`: ticks with waits between them.
-/
import LiveReload.Build.Error
import LiveReload.Context.Basic
import LiveReload.Module.EntryPoint

namespace LiveReload

/-- What the reload loop needs of the world around it, whose state is a `W`. -/
structure Host (W : Type) where
  /-- Records a line of the log. -/
  record : Record → W → W
  /-- Builds a source file and answers the artifact. -/
  build : Path → W → Except BuildError Path × W
  /-- Loads an artifact. -/
  load : Path → W → Except LoadError Module × W
  /-- Calls a main function. -/
  callMain : Address → Context → W → Context × W
  /-- Calls an initializer, which answers the state of the module. -/
  callInit : Address → W → Nat × W
  /-- Calls an update function with the state of the module. -/
  callUpdate : Address → Nat → W → UInt32 × W
  /-- Waits for a change and answers whether there was one; no answer ends the run. -/
  wait : Span → W → Option Bool × W

/-- Counters of the reload loop. -/
structure ReloadCounts where
  builds : Nat
  buildFailures : Nat
  loadFailures : Nat
  swaps : Nat
  invocations : Nat
deriving DecidableEq, Repr

/-- Counters in diagnostics. -/
def ReloadCounts.debug (stats : ReloadCounts) : String :=
  "ReloadStats \x7b builds: " ++ toString stats.builds ++
    ", build_failures: " ++ toString stats.buildFailures ++
    ", load_failures: " ++ toString stats.loadFailures ++
    ", swaps: " ++ toString stats.swaps ++
    ", invocations: " ++ toString stats.invocations ++ " \x7d"

/-- Why a new generation did not come up. -/
inductive ReloadError
  | build (error : BuildError)
  | load (error : LoadError)
deriving DecidableEq, Repr

/-- A reload error in words. -/
def ReloadError.message : ReloadError → String
  | build error => error.message
  | load error => error.message

/-- A module that was built, loaded and resolved. -/
structure Generation where
  entry : EntryPoint
  number : Nat
  path : Path
deriving DecidableEq, Repr

/-- What to do after a tick. -/
inductive NextStep
  /-- Tick again after this time, or earlier if there is a change. -/
  | wait (delay : Span)
  /-- End with this code. -/
  | exit (code : Int)
deriving DecidableEq, Repr

/-- Keeps one module running. -/
structure Reloader where
  input : Path
  /-- The delay between ticks when the module asks for none. -/
  defaultWake : Span
  active : Option Generation
  /-- There was no tick yet. -/
  fresh : Bool
  /-- A change was reported since the last tick. -/
  changed : Bool
  /-- What the initializer answered, once one was called. -/
  legacyState : Option Nat
  stats : ReloadCounts
deriving DecidableEq, Repr

/-- A reloader with the context of its module and the state of the world around it. -/
structure Session (W : Type) where
  reloader : Reloader
  context : Context
  world : W

/-- How a run ended. -/
inductive RunEnd
  /-- The module asked for this code. -/
  | exit (code : Int)
  /-- A wait had no answer. -/
  | abandoned
deriving DecidableEq, Repr

namespace Reloader

/-- A reloader that has built nothing. -/
def new (input : Path) (defaultWake : Span) : Reloader :=
  { input, defaultWake, active := none, fresh := true, changed := false, legacyState := none,
    stats := ⟨0, 0, 0, 0, 0⟩ }

/-- The number of the active generation. -/
def generation (reloader : Reloader) : Option Nat :=
  reloader.active.map Generation.number

/-- Reports a change of the sources. -/
def noteChange (reloader : Reloader) : Reloader :=
  { reloader with changed := true }

/-- A reloader in diagnostics. -/
def debug (reloader : Reloader) : String :=
  let generation := match reloader.generation with
    | none => "None"
    | some number => s!"Some({number})"
  "Reloader \x7b input: " ++ Quoted.text reloader.input.text ++
    ", generation: " ++ generation ++
    ", pending_change: " ++ toString reloader.changed ++
    ", stats: " ++ reloader.stats.debug ++ ", .. \x7d"

/-- A record of the reload loop. -/
def say (severity : Severity) (text : String) : Record :=
  ⟨severity, "ember_runtime::reloader", text⟩

/-- The record of a new generation. -/
def loadedRecord (generation : Generation) : Record :=
  say .info s!"Loaded generation {generation.number} from '{generation.path.text}'"

/-- The record of a failed reload. -/
def failedRecord (active : Option Generation) (error : ReloadError) : Record :=
  match active with
  | some generation =>
    say .error s!"Reload failed, generation {generation.number} keeps running: {error.message}"
  | none => say .error s!"No module running, waiting for a change: {error.message}"

/-- The record of a change. -/
def changeRecord (input : Path) : Record :=
  say .info s!"Change detected, rebuilding '{input.text}'"

/-- The record of a module that asked to end. -/
def exitRecord (code : Int) (ticks swaps : Nat) : Record :=
  say .info
    s!"Module requested exit with code {code} after {ticks} ticks, {swaps} generations"

variable {W : Type}

/-- Builds, loads and resolves a new generation, and counts the attempt. -/
def attempt (host : Host W) (reloader : Reloader) (world : W) :
    Except ReloadError Generation × ReloadCounts × W :=
  let stats := { reloader.stats with builds := reloader.stats.builds + 1 }
  match host.build reloader.input world with
  | (.error error, world) =>
    (.error (.build error), { stats with buildFailures := stats.buildFailures + 1 }, world)
  | (.ok artifact, world) =>
    match host.load artifact world with
    | (.error error, world) =>
      (.error (.load error), { stats with loadFailures := stats.loadFailures + 1 }, world)
    | (.ok module, world) =>
      match EntryPoint.resolve module with
      | .error error =>
        (.error (.load error), { stats with loadFailures := stats.loadFailures + 1 }, world)
      | .ok entry =>
        (.ok ⟨entry, stats.swaps + 1, module.path⟩, { stats with swaps := stats.swaps + 1 }, world)

/-- The state that a new generation starts with: an initializer is called once and for all. -/
def initialize? (host : Host W) (state : Option Nat) (entry : EntryPoint) (world : W) :
    Option Nat × W :=
  match entry, state with
  | .legacy init _, none =>
    let (state, world) := host.callInit init world
    (some state, world)
  | _, _ => (state, world)

/-- Replaces the active generation if a new one comes up. -/
def reload (host : Host W) (session : Session W) : Session W :=
  let reloader := session.reloader
  match attempt host reloader session.world with
  | (.error error, stats, world) =>
    { session with
      reloader := { reloader with stats }
      world := host.record (failedRecord reloader.active error) world }
  | (.ok generation, stats, world) =>
    let (legacyState, world) := initialize? host reloader.legacyState generation.entry world
    { reloader := { reloader with stats, legacyState, active := some generation }
      context := { session.context with reloaded := true }
      world := host.record (loadedRecord generation) world }

/-- Reloads at the first tick and after a change. -/
def reloadIfDue (host : Host W) (session : Session W) : Session W :=
  if session.reloader.fresh || session.reloader.changed then
    reload host
      { session with reloader := { session.reloader with fresh := false, changed := false } }
  else session

/-- Calls the active entry point, and answers the exit code that an update function asks for. -/
def invoke (host : Host W) (session : Session W) : Option Int × Session W :=
  match session.reloader.active with
  | none => (none, session)
  | some generation =>
    let stats := { session.reloader.stats with
      invocations := session.reloader.stats.invocations + 1 }
    let reloader := { session.reloader with stats }
    match generation.entry with
    | .main address =>
      let (context, world) := host.callMain address session.context session.world
      (none, ⟨reloader, context, world⟩)
    | .legacy _ update =>
      let (result, world) := host.callUpdate update (reloader.legacyState.getD 0) session.world
      (exitCode result, ⟨reloader, session.context, world⟩)

/-- What to do after a tick: an update function comes first, then the requests in the context. -/
def outcome (requested : Option Int) (context : Context) : NextStep :=
  match requested.or context.exitCode with
  | some code => .exit code
  | none => .wait context.wakeDelay

/-- Reloads if it is due, then calls the active entry point once. -/
def tick (host : Host W) (session : Session W) : NextStep × Session W :=
  let session := reloadIfDue host session
  let begun := session.context.openTick session.reloader.defaultWake
  let (requested, session) := invoke host { session with context := begun }
  let context := { session.context with reloaded := false }.closeTick
  (outcome requested context, { session with context })

/-- Reports a change to a session. -/
def notifySession (session : Session W) : Session W :=
  { session with reloader := session.reloader.noteChange }

/-- What follows a wait: a change is recorded and reported. -/
def afterWait (host : Host W) (changed : Bool) (session : Session W) : Session W :=
  if changed then
    notifySession { session with
      world := host.record (changeRecord session.reloader.input) session.world }
  else session

/-- At most `ticks` ticks with waits between them; no answer if the run goes on after those. -/
def run (host : Host W) : Nat → Session W → Option RunEnd × Session W
  | 0, session => (none, session)
  | ticks + 1, session =>
    match tick host session with
    | (.exit code, session) =>
      let record := exitRecord code session.context.tick session.reloader.stats.swaps
      (some (.exit code), { session with world := host.record record session.world })
    | (.wait delay, session) =>
      match host.wait delay session.world with
      | (none, world) => (some .abandoned, { session with world })
      | (some changed, world) => run host ticks (afterWait host changed { session with world })

end Reloader

end LiveReload
