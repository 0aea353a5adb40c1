/-
**The context of a module.**

Everything a module may keep or use is in the context, which outlives every generation of the
module: application state in the `mem` arena, scratch memory in the `tmp` arena that each tick
frees, output, random numbers, identifiers, and requests to the host.

* `Context.ensureState`: the application state, made by an initializer the first time;
* `Context.openTick`, `Context.closeTick`: what the host does around an invocation;
* `Context.freshId`: identifiers that are never zero.
-/
import LiveReload.Decimal.Shortest
import LiveReload.FramePacer
import LiveReload.Memory.Arena
import LiveReload.Output
import LiveReload.Random
import LiveReload.Text.Quoted

namespace LiveReload

/-- What the host and the generations of a module share. -/
structure Context where
  /-- This invocation is the first of a new generation. -/
  reloaded : Bool
  id : UInt32
  /-- The address of the application state. -/
  state : Option Nat
  output : Output
  random : Stream
  args : List String
  wakeDelay : Span
  chunks : ChunkCache
  mem : Arena
  tmp : Arena
  pacer : FramePacer
  /-- How many ticks have ended. -/
  tick : Nat
  exitCode : Option Int

namespace Context

/-- How long the host waits between ticks when nothing else was asked for. -/
def defaultWakeDelay : Span := .ofMillis 100

/-- A context that nothing has used yet. -/
def new (args : List String) (seed : UInt64) (output : Output) (supply : ChunkSupply) : Context :=
  { reloaded := false, id := 0, state := none, output, random := .ofSeed seed, args,
    wakeDelay := defaultWakeDelay, chunks := .new supply, mem := .empty, tmp := .empty,
    pacer := .standard, tick := 0, exitCode := none }

/-- The next identifier: one more than the last, with zero left out. -/
def freshId (context : Context) : UInt32 × Context :=
  let next := if context.id + 1 = 0 then 1 else context.id + 1
  (next, { context with id := next })

/-- Asks for the next invocation after `delay`. -/
def askWake (context : Context) (delay : Span) : Context :=
  { context with wakeDelay := delay }

/-- Asks the host to end the run. -/
def askExit (context : Context) (code : Int) : Context :=
  { context with exitCode := some code }

/-- Forgets the delay that the last tick asked for. -/
def openTick (context : Context) (wake : Span) : Context :=
  { context with wakeDelay := wake }

/-- Frees the scratch memory and counts the tick. -/
def closeTick (context : Context) : Context :=
  let (tmp, chunks) := context.tmp.free context.chunks
  { context with tmp, chunks, tick := context.tick + 1 }

/-- Reserves bytes in the arena that lasts. -/
def allocateMem (context : Context) (layout : Layout) : Except Crash Region × Context :=
  let (region, mem, chunks) := context.mem.allocate context.chunks layout
  (region, { context with mem, chunks })

/-- Reserves bytes in the arena that each tick frees. -/
def allocateTmp (context : Context) (layout : Layout) : Except Crash Region × Context :=
  let (region, tmp, chunks) := context.tmp.allocate context.chunks layout
  (region, { context with tmp, chunks })

/-- Stores bytes in the arena that lasts. -/
def storeMem (context : Context) (layout : Layout) (data : Array UInt8) :
    Except Crash Region × Context :=
  let (region, mem, chunks) := context.mem.store context.chunks layout data
  (region, { context with mem, chunks })

/-- Stores bytes in the arena that each tick frees. -/
def storeTmp (context : Context) (layout : Layout) (data : Array UInt8) :
    Except Crash Region × Context :=
  let (region, tmp, chunks) := context.tmp.store context.chunks layout data
  (region, { context with tmp, chunks })

/-- The bytes from an address on. -/
def readAt (context : Context) (address size : Nat) : List UInt8 :=
  context.chunks.memory.read address size

/-- Writes bytes from an address on. -/
def writeAt (context : Context) (address : Nat) (data : Array UInt8) : Context :=
  { context with
    chunks := { context.chunks with memory := context.chunks.memory.write address data } }

/-- An initializer of application state: it may use the context and gives the bytes of the state. -/
abbrev Initializer := Context → Except Crash (Array UInt8) × Context

/-- The address of the application state; the first time `make` makes the state, which then
lasts as long as `mem`. -/
def ensureState (context : Context) (layout : Layout) (make : Initializer) :
    Except Crash Nat × Context :=
  match context.state with
  | some address => (.ok address, context)
  | none =>
    match make context with
    | (.error crash, context) => (.error crash, context)
    | (.ok data, context) =>
      match context.storeMem layout data with
      | (.error crash, context) => (.error crash, context)
      | (.ok region, context) => (.ok region.address, { context with state := some region.address })

section EnsureState

variable {context inside after : Context} {layout : Layout} {make : Initializer}

/-- State that exists is used as it is. -/
theorem ensureState_of_some {address : Nat} (set : context.state = some address) :
    context.ensureState layout make = (.ok address, context) := by
  simp only [ensureState, set]

theorem ensureState_of_error {crash : Crash} (unset : context.state = none)
    (made : make context = (.error crash, after)) :
    context.ensureState layout make = (.error crash, after) := by
  simp only [ensureState, unset, made]

theorem ensureState_of_refused {data : Array UInt8} {crash : Crash} (unset : context.state = none)
    (made : make context = (.ok data, inside))
    (refused : inside.storeMem layout data = (.error crash, after)) :
    context.ensureState layout make = (.error crash, after) := by
  simp only [ensureState, unset, made, refused]

/-- State that is made lies where its bytes were stored. -/
theorem ensureState_of_stored {data : Array UInt8} {region : Region} (unset : context.state = none)
    (made : make context = (.ok data, inside))
    (stored : inside.storeMem layout data = (.ok region, after)) :
    context.ensureState layout make =
      (.ok region.address, { after with state := some region.address }) := by
  simp only [ensureState, unset, made, stored]

end EnsureState

/-- Frees the memory that lasts and forgets the application state in it. -/
def dropState (context : Context) : Context :=
  let (mem, chunks) := context.mem.free context.chunks
  { context with mem, chunks, state := none }

/-- Asks for the next invocation when the next frame is due. -/
def pace (context : Context) (now : Instant) : Option Crash × Context :=
  match context.pacer.advance now with
  | (.error crash, pacer) => (some crash, { context with pacer })
  | (.ok sleep, pacer) => (none, { context with pacer, wakeDelay := sleep })

/-- Prints a text; a failing sink is only logged. -/
def print (context : Context) (text : String) : Option Crash × List Record × Context :=
  let (crash, records, output) := context.output.print text
  (crash, records, { context with output })

end Context

/-- The counters of a cache in diagnostics. -/
def ChunkCounts.debug (stats : ChunkCounts) : String :=
  "ChunkStats \x7b system_allocations: " ++ toString stats.systemAllocations ++
    ", system_bytes: " ++ toString stats.systemBytes ++
    ", cache_hits: " ++ toString stats.cacheHits ++
    ", released: " ++ toString stats.released ++
    ", cached_chunks: " ++ toString stats.cached ++
    ", reuse_ratio: " ++ Decimal.debug stats.reuseRatio ++ " \x7d"

/-- A context in diagnostics, with the address of the application state as `showAddress` has it. -/
def Context.debug (context : Context) (showAddress : Nat → String) : String :=
  let state := match context.state with
    | none => "0x0"
    | some address => showAddress address
  let exitCode := match context.exitCode with
    | none => "None"
    | some code => s!"Some({code})"
  "Context \x7b reloaded: " ++ toString context.reloaded ++
    ", id: " ++ toString context.id ++
    ", app: " ++ state ++
    ", args: " ++ Quoted.list (context.args.map Quoted.text) ++
    ", wake_delay: " ++ context.wakeDelay.debug ++
    ", chunks: " ++ context.chunks.stats.debug ++
    ", mem_chunks: " ++ toString context.mem.size ++
    ", tmp_chunks: " ++ toString context.tmp.size ++
    ", tick: " ++ toString context.tick ++
    ", exit_code: " ++ exitCode ++ ", .. \x7d"

end LiveReload
