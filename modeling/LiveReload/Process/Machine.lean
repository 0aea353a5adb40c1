/-
**The machine that builds run on.**

A machine has files, programs and a log. What a program does is up to the machine: it is given the
programs that were run before, its own name and arguments, and the files, and it leaves the files
as it likes. Each record of the log comes with the files and the programs run at that moment, so
that a machine can be looked at as it was when a record was made.

* `Machine.run`: runs a program and waits for its end;
* `Machine.change`: changes the files;
* `Machine.record`: adds a record.
-/
import LiveReload.Files.Basic
import LiveReload.Log
import LiveReload.Process.Status

namespace LiveReload

/-- A program with its arguments, the name first. -/
abbrev CommandLine := List String

/-- What programs do: from the programs that were run before, a program and its arguments. -/
abbrev Launcher :=
  List CommandLine → String → List String → FileSystem → Except Fault Finished × FileSystem

/-- A record, with the files and the programs run when it was made. -/
structure LogEntry where
  record : Record
  files : FileSystem
  calls : List CommandLine

/-- A machine with files, programs and a log. -/
structure Machine where
  files : FileSystem
  launcher : Launcher
  /-- The programs that were run. -/
  calls : List CommandLine
  /-- The log, the oldest record first. -/
  log : Array LogEntry

namespace Machine

/-- A machine that has done nothing. -/
def new (files : FileSystem) (launcher : Launcher) : Machine := ⟨files, launcher, [], #[]⟩

/-- Adds a record to the log. -/
def record (record : Record) (machine : Machine) : Machine :=
  { machine with log := machine.log.push ⟨record, machine.files, machine.calls⟩ }

/-- Adds records to the log. -/
def recordAll (records : List Record) (machine : Machine) : Machine :=
  records.foldl (fun machine record => machine.record record) machine

/-- The records of the log. -/
def records (machine : Machine) : List Record :=
  machine.log.toList.map LogEntry.record

/-- Changes the files. -/
def change {α : Type} (operation : FileSystem → α × FileSystem) (machine : Machine) :
    α × Machine :=
  let (answer, files) := operation machine.files
  (answer, { machine with files })

/-- Arguments cannot hold the character that ends texts. -/
def endInside : Fault := .worded .other "nul byte found in provided data"

/-- The arguments can be passed on. -/
def passable (words : List String) : Bool :=
  words.all fun word => !word.toList.contains (Char.ofNat 0)

/-- Runs a program and waits for its end. A program that could not be started is not counted. -/
def run (machine : Machine) (program : String) (arguments : List String) :
    Except Fault Finished × Machine :=
  if !passable (program :: arguments) then (.error endInside, machine)
  else match machine.launcher machine.calls program arguments machine.files with
    | (.error fault, files) => (.error fault, { machine with files })
    | (.ok finished, files) =>
      (.ok finished, { machine with files, calls := machine.calls ++ [program :: arguments] })

end Machine

end LiveReload
