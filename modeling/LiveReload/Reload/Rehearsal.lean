/-
**Rehearsals of the reload loop.**

A rehearsal runs the loop over answers that were laid down beforehand: what the builder and the
loader answer in turn, what the module does in each call, and how each wait ends. It notes every
build, call and wait.

* `Routine`: the functions that a rehearsed module may export;
* `Rehearsal.host`: the host that a rehearsal is.
-/
import LiveReload.Context.Action
import LiveReload.Demo.Counter
import LiveReload.Module.Failure
import LiveReload.Module.TableLoader
import LiveReload.Reload.Reloader

namespace LiveReload

/-- A function that a rehearsed module may export. -/
inductive Routine
  /-- Performs the next list of actions laid down for the name. -/
  | main (name : String)
  /-- The counter demo. -/
  | counter
  /-- Answers a state. -/
  | init (name : String) (state : Nat)
  /-- Answers the next result laid down for the name. -/
  | update (name : String)
deriving DecidableEq, Repr

namespace Routine

/-- All routines, in the order of their addresses. -/
def all : List Routine :=
  [main "a", main "b", main "c", counter, init "i" 4096, init "i2" 8192, init "i0" 0, update "u",
    update "u2"]

/-- The name of a routine. -/
def name : Routine → String
  | main name => name
  | counter => "counter"
  | init name _ => name
  | update name => name

/-- The address of the routine of a name. -/
def addressOf? (name : String) : Option Address :=
  (all.findIdx? fun routine => routine.name = name).bind fun index => Address.of? (index + 1)

/-- The routine at an address. -/
def at? (address : Address) : Option Routine := all[address.value - 1]?

end Routine

/-- A call into a rehearsed module. -/
inductive Call
  | main (name : String) (reloaded : Bool) (tick : Nat) (answers : List Answer)
  | init (name : String)
  | update (name : String) (state : Nat)

/-- Answers to come, and notes of what was asked. -/
structure Rehearsal where
  /-- What builds answer; no entry is a success at a path of its own. -/
  builds : List (Option (Except BuildError Path))
  /-- How often something was built. -/
  buildCount : Nat
  /-- Failures of loads; no entry loads from the table. -/
  loads : List (Option LoadError)
  table : TableLoader
  /-- The actions of each main function, call by call. -/
  mains : List (String × List (List Action))
  /-- The failures of each initializer, call by call. -/
  inits : List (String × List (Option Crash))
  /-- The results of each update function, call by call. -/
  updates : List (String × List (Except Crash UInt32))
  /-- How waits end. -/
  changes : List Bool
  /-- The sources that were built. -/
  built : List Path
  waits : List Span
  calls : List Call
  records : List Record
  /-- The code that a failing module ended the host with; nothing happens after that. -/
  ended : Option Nat

namespace Rehearsal

/-- Nothing laid down and nothing noted. -/
def blank : Rehearsal :=
  { builds := [], buildCount := 0, loads := [], table := .empty, mains := [], inits := [],
    updates := [], changes := [], built := [], waits := [], calls := [], records := [],
    ended := none }

/-- Takes the next entry of a name. -/
def takeNext {α : Type} (name : String) : List (String × List α) → Option α × List (String × List α)
  | [] => (none, [])
  | (key, items) :: rest =>
    if key = name then
      match items with
      | [] => (none, (key, []) :: rest)
      | item :: items => (some item, (key, items) :: rest)
    else
      let (item, rest) := takeNext name rest
      (item, (key, items) :: rest)

/-- Notes a record. -/
def note (record : Record) (stage : Rehearsal) : Rehearsal :=
  if stage.ended.isSome then stage else { stage with records := stage.records ++ [record] }

/-- Notes several records. -/
def noteAll (records : List Record) (stage : Rehearsal) : Rehearsal :=
  records.foldl (fun stage record => stage.note record) stage

/-- Notes a call. -/
def noteCall (call : Call) (stage : Rehearsal) : Rehearsal :=
  { stage with calls := stage.calls ++ [call] }

/-- Ends the host after a failure of the module. -/
def fail (records : List Record) (stage : Rehearsal) : Rehearsal :=
  { stage.noteAll records with ended := some ModuleFailure.exitCode }

/-- The artifact of a build that nothing was laid down for. -/
def artifact (count : Nat) : Path := ⟨s!"out/gen-{count}.so"⟩

/-- Builds. -/
def build (input : Path) (stage : Rehearsal) : Except BuildError Path × Rehearsal :=
  let count := stage.buildCount + 1
  let answer := match stage.builds.head?.join with
    | some answer => answer
    | none => .ok (artifact count)
  (answer, { stage with
    builds := stage.builds.tail, buildCount := count, built := stage.built ++ [input] })

/-- Loads. -/
def load (path : Path) (stage : Rehearsal) : Except LoadError Module × Rehearsal :=
  match stage.loads.head?.join with
  | some error => (.error error, { stage with loads := stage.loads.tail })
  | none =>
    let (module, table) := stage.table.load path
    (.ok module, { stage with loads := stage.loads.tail, table })

/-- Performs actions until one ends the module. -/
def performAll : List Action → Context → List Answer × List Record × Option Crash × Context
  | [], context => ([], [], none, context)
  | .print text :: rest, context =>
    let (crash, records, context) := context.print text
    match crash with
    | some crash => ([], records, some crash, context)
    | none =>
      let (answers, more, crash, context) := performAll rest context
      (.nothing :: answers, records ++ more, crash, context)
  | action :: rest, context =>
    let (answer, records, context) := Action.perform context action
    let (answers, more, crash, context) := performAll rest context
    (answer :: answers, records ++ more, crash, context)

/-- What a main function leaves behind, whether it failed or not. -/
def settle (crash : Option Crash) (source : String) (context : Context) (stage : Rehearsal) :
    Context × Rehearsal :=
  match crash with
  | none => (context, stage)
  | some crash =>
    let (records, context) := ModuleFailure.settle source crash context
    (context, stage.fail records)

/-- Calls a main function. -/
def callMain (address : Address) (context : Context) (stage : Rehearsal) : Context × Rehearsal :=
  if stage.ended.isSome then (context, stage)
  else match Routine.at? address with
    | some .counter =>
      let (crash, records, context) := Counter.tick context
      settle crash "counter" context (stage.noteAll records)
    | some (.main name) =>
      let (actions, mains) := takeNext name stage.mains
      let (answers, records, crash, after) := performAll (actions.getD []) context
      let call := Call.main name context.reloaded context.tick answers
      settle crash name after (({ stage with mains }.noteCall call).noteAll records)
    | _ => (context, stage)

/-- Calls an initializer. -/
def callInit (address : Address) (stage : Rehearsal) : Nat × Rehearsal :=
  match Routine.at? address with
  | some (.init name state) =>
    let (crash, inits) := takeNext name stage.inits
    let noted := { stage with inits }.noteCall (.init name)
    match crash.join with
    | none => (state, noted)
    | some crash => (0, noted.fail [ModuleFailure.record crash])
  | _ => (0, stage)

/-- Calls an update function. -/
def callUpdate (address : Address) (state : Nat) (stage : Rehearsal) : UInt32 × Rehearsal :=
  if stage.ended.isSome then (0, stage)
  else match Routine.at? address with
    | some (.update name) =>
      let (result, updates) := takeNext name stage.updates
      let noted := { stage with updates }.noteCall (.update name state)
      match result with
      | none => (0, noted)
      | some (.ok result) => (result, noted)
      | some (.error crash) => (0, noted.fail [ModuleFailure.record crash])
    | _ => (0, stage)

/-- Waits. -/
def wait (delay : Span) (stage : Rehearsal) : Option Bool × Rehearsal :=
  if stage.ended.isSome then (none, stage)
  else
    let noted := { stage with waits := stage.waits ++ [delay] }
    match stage.changes with
    | [] => (none, noted)
    | changed :: changes => (some changed, { noted with changes })

/-- The host that a rehearsal is. -/
def host : Host Rehearsal :=
  { record := note, build, load, callMain, callInit, callUpdate, wait }

/-- Runs a session until a wait that nothing is laid down for, if the module does not end it. -/
def run (session : Session Rehearsal) : Option RunEnd × Session Rehearsal :=
  Reloader.run host (session.world.changes.length + 1) session

/-- The status of a process when a wait had no answer. -/
def abandonedStatus : Nat := 99

/-- Runs a session as a process of its own, and answers its status. -/
def runProcess (session : Session Rehearsal) : Nat × Session Rehearsal :=
  let (ending, session) := run session
  match session.world.ended with
  | some status => (status, session)
  | none =>
    let (_, output) := session.context.output.flush
    let session := { session with context := { session.context with output } }
    match ending with
    | some (.exit code) => (exitStatus code, session)
    | _ => (abandonedStatus, session)

/-- Several ticks one after the other. -/
def ticks : Nat → Session Rehearsal → List NextStep × Session Rehearsal
  | 0, session => ([], session)
  | count + 1, session =>
    let (outcome, session) := Reloader.tick host session
    let (outcomes, session) := ticks count session
    (outcome :: outcomes, session)

end Rehearsal

end LiveReload
