/-
**The program.**

* `Invocation.perform`: one command;
* `Program.run`: the whole program, from the words of its command line to its status.
-/
import LiveReload.Commands.Format
import LiveReload.Commands.Run
import LiveReload.Commands.Watch

namespace LiveReload

/-- What a command is performed in, apart from its machine. -/
structure Surroundings where
  /-- The directory of the program. -/
  hostDir : Path
  /-- What sets the artifacts of this run apart. -/
  session : Nat
  edit : Option Edit
  halt : Option Halt

/-- Performs a command with its settings; one that goes on for as long as it is let has no
outcome. -/
def Command.perform (surroundings : Surroundings) (settings : Settings) (machine : Machine) :
    Command → Option Outcome × Machine
  | .run seed main args =>
    let request : RunRequest :=
      { main, args, seed, hostDir := surroundings.hostDir, session := surroundings.session }
    request.perform settings surroundings.edit surroundings.halt machine
  | .build request =>
    let (outcome, machine) := request.perform settings machine
    (some outcome, machine)
  | .watch request => request.watch settings surroundings.edit surroundings.halt machine
  | .format =>
    let (outcome, machine) := Formatting.perform settings machine
    (some outcome, machine)

/-- Reads the settings and performs the command. -/
def Invocation.perform (invocation : Invocation) (surroundings : Surroundings)
    (machine : Machine) : Option Outcome × Machine :=
  let (record, settings) := Settings.load machine.files invocation.settings
  let machine := machine.record record
  match settings with
  | .error error => (some (.error (.settings error)), machine)
  | .ok settings => invocation.command.perform surroundings settings machine

/-- Performs a command as it can be seen up to the halt, where it then has no outcome. -/
def Invocation.performSeen (invocation : Invocation) (surroundings : Surroundings)
    (machine : Machine) : Option Outcome × Machine :=
  let (outcome, machine) := invocation.perform surroundings machine
  match surroundings.halt.bind fun halt => halt.left? machine with
  | none => (outcome, machine)
  | some left => (none, left)

namespace Program

/-- The record of a command that failed. -/
def failureRecord (error : CommandError) : Record := ⟨.error, "ember", error.message⟩

/-- The code of a command that failed. -/
def failureCode : Nat := 1

/-- The status of the program and the machine it leaves. -/
def run (words : List String) (surroundings : Surroundings) (machine : Machine) :
    Nat × Machine :=
  match Invocation.ofWords words with
  | .error error => (error.status, machine)
  | .ok invocation =>
    match invocation.performSeen surroundings machine with
    | (some (.ok code), machine) => (exitStatus code, machine)
    | (some (.error error), machine) => (failureCode, machine.record (failureRecord error))
    | (none, machine) => (failureCode, machine)

end Program

end LiveReload
