/-
**Waiting for changes on a machine.**

A vigil is a machine whose files are watched. What happens to the files between waits is reported
in the next wait; someone else may change a file at a set time. Time passes in waits alone, and
every wait takes some.

* `Vigil.wait`: one wait;
* `Halt.entry?`: the record in which a machine is left, for those who only want to see it so far.
-/
import LiveReload.Process.Machine
import LiveReload.Watch.Reports
import LiveReload.Watch.Setup

namespace LiveReload

/-- A file that someone else writes at an instant. -/
structure Edit where
  instant : Instant
  path : Path
  text : String
deriving DecidableEq, Repr

/-- A machine is left in its record with number `count`, from one on, of those that start so. -/
structure Halt where
  start : String
  count : Nat
deriving DecidableEq, Repr

namespace Halt

/-- The record counts. -/
def counts (halt : Halt) (record : Record) : Bool :=
  record.severity.rank ≤ Severity.info.rank && halt.start.toList.isPrefixOf record.text.toList

/-- Where in a log the machine is left. -/
def index? (halt : Halt) (log : Array LogEntry) : Option Nat :=
  let places := (List.range log.size).filter fun place =>
    (log[place]?).any fun entry => halt.counts entry.record
  if halt.count = 0 then none else places[halt.count - 1]?

/-- The machine as it was when it was left. -/
def left? (halt : Halt) (machine : Machine) : Option Machine :=
  match halt.index? machine.log with
  | none => none
  | some place =>
    (machine.log[place]?).map fun entry =>
      { machine with
        files := entry.files, calls := entry.calls, log := machine.log.take (place + 1) }

end Halt

/-- A machine whose files are watched. -/
structure Vigil where
  machine : Machine
  watcher : Watcher
  /-- What is watched. -/
  roots : List Spot
  /-- What was reported and not received. -/
  reported : List Delivery
  now : Instant
  edit : Option Edit
  halt : Option Halt

namespace Vigil

/-- Starts to watch. What happened before is not reported. -/
def start (machine : Machine) (config : WatchSettings) (edit : Option Edit) (halt : Option Halt) :
    Except WatchError Vigil × Machine :=
  let (records, resolved) := config.resolved machine.files
  let machine := machine.recordAll records
  match resolved with
  | .error error => (.error error, machine)
  | .ok config =>
    let roots := config.dirs.filterMap fun dir =>
      (machine.files.find dir).toOption.map Prod.fst
    let files := { machine.files with journal := [] }
    (.ok
      { machine := { machine with files }, watcher := .new config, roots, reported := [],
        now := ⟨0⟩, edit, halt }, machine)

/-- The files after an edit; one that fails changes nothing. -/
def edited (files : FileSystem) (edit : Edit) : FileSystem :=
  ((files.write edit.path (.ofText edit.text)).toOption).getD files

/-- Takes the changes out of the journal, as events at an instant. -/
def takeReports (files : FileSystem) (roots : List Spot) (instant : Instant) :
    List Delivery × FileSystem :=
  let events := Reports.ofChanges files roots files.journal
  (events.map fun event => ⟨instant, .event event⟩, { files with journal := [] })

/-- What a wait costs at least. -/
def leastCost : Span := ⟨20000⟩

/-- An edit that is due happens. -/
def settleEdit (vigil : Vigil) : Vigil :=
  match vigil.edit with
  | none => vigil
  | some edit =>
    if edit.instant.nanos ≤ vigil.now.nanos then
      { vigil with machine.files := edited vigil.machine.files edit, edit := none }
    else vigil

/-- What is reported until the end of the files' journal. -/
def gather (vigil : Vigil) : Vigil :=
  let (reports, files) := takeReports vigil.machine.files vigil.roots vigil.now
  { vigil with machine.files := files, reported := vigil.reported ++ reports }

/-- The deliveries of an edit to come, and the files after it. -/
def foresee (vigil : Vigil) : List Delivery × FileSystem :=
  match vigil.edit with
  | none => ([], vigil.machine.files)
  | some edit => takeReports (edited vigil.machine.files edit) vigil.roots edit.instant

/-- The edit came before the end of a wait. -/
def editCame (vigil : Vigil) (ending : Instant) : Bool :=
  vigil.edit.any fun edit => edit.instant.nanos ≤ ending.nanos

/-- What is left to be received when a wait is over. -/
def leftOver (wait : Wait) : List Delivery :=
  wait.channel.deliveries.filter fun delivery => delivery.instant.nanos ≤ wait.now.nanos

/-- A wait is over; the edit has happened if its time came. -/
def conclude (vigil : Vigil) (foreseen : FileSystem) (wait : Wait) : Vigil :=
  let came := vigil.editCame wait.now
  let files := if came then foreseen else vigil.machine.files
  { vigil with
    machine := { vigil.machine with files }.recordAll wait.records
    watcher := wait.watcher
    reported := leftOver wait
    now := ⟨wait.now.nanos + leastCost.nanos⟩
    edit := if came then none else vigil.edit }

/-- Waits for a change. -/
def waitFor (timeout : Span) (vigil : Vigil) : Except Crash Bool × Vigil :=
  let vigil := vigil.settleEdit.gather
  let (coming, foreseen) := vigil.foresee
  let wait := vigil.watcher.awaitChange ⟨vigil.reported ++ coming, none⟩ vigil.now timeout
  (wait.answer, vigil.conclude foreseen wait)

/-- Nobody wants to see more of the machine. -/
def isLeft (vigil : Vigil) : Bool :=
  vigil.halt.any fun halt => (halt.index? vigil.machine.log).isSome

/-- Waits for a change, unless the machine is left. -/
def wait (timeout : Span) (vigil : Vigil) : Option Bool × Vigil :=
  if vigil.isLeft then (none, vigil)
  else
    let (answer, vigil) := vigil.waitFor timeout
    (answer.toOption, vigil)

/-- How many waits there may be. -/
def waitLimit : Nat := 200000

end Vigil

end LiveReload
