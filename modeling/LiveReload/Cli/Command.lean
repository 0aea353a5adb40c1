/-
**Commands.**

* `Invocation.ofWords`: the command that the words of a command line ask for.
-/
import LiveReload.Cli.Scan

namespace LiveReload

/-- What to build, and what for. -/
structure BuildRequest where
  input : Path
  output : Path
  platforms : List Platform
  release : Bool
  /-- A library that a running program can load, no program. -/
  loadable : Bool
deriving DecidableEq, Repr

/-- What the program is asked to do. -/
inductive Command
  /-- Keep a module running. -/
  | run (seed : Option Nat) (main : Path) (args : List String)
  /-- Build once. -/
  | build (request : BuildRequest)
  /-- Build after every change. -/
  | watch (request : BuildRequest)
  /-- Format all sources. -/
  | format
deriving DecidableEq, Repr

/-- A command with the path of the settings. -/
structure Invocation where
  settings : Path
  command : Command
deriving DecidableEq, Repr

namespace Invocation

/-- The option for the path of the settings, which every command has. -/
def configOption : String × OptionKind := ("config", .value .path false)

/-- The options that every command has. -/
def commonOptions : List (String × OptionKind) := [configOption, ("help", .help)]

/-- The command that explains the others. -/
def helpCommand : String := "help"

/-- The names of commands. -/
def commandNames : List String := ["run", "build", "watch", "format", helpCommand]

/-- The shape of the words before the command. -/
def outerShape : Shape :=
  { options := commonOptions ++ [("version", .version)], letters := [('h', .help), ('V', .version)],
    operands := [], rest := none, commands := commandNames }

/-- The shape of a command with some options and operands of its own. -/
def innerShape (options : List (String × OptionKind)) (operands : List (String × Check))
    (rest : Option String) : Shape :=
  { options := commonOptions ++ options, letters := [('h', .help)], operands, rest, commands := [] }

/-- The shape of a command that keeps a module running. -/
def runShape : Shape :=
  innerShape [("seed", .value .word false)] [("main", .path)] (some "args")

/-- The shape of a command that builds. -/
def buildShape : Shape :=
  innerShape [("platform", .value .platform true), ("release", .flag), ("dynamic", .flag)]
    [("input", .path), ("output", .path)] none

/-- The shape of the command that formats. -/
def formatShape : Shape := innerShape [] [] none

/-- A path that was given. -/
def pathOf (scan : Scan) (name : String) : Path := ⟨(scan.value? name).getD ""⟩

/-- The platforms that were given, or the native one. -/
def platformsOf (scan : Scan) : List Platform :=
  let given := (scan.values "platform").filterMap fun name => (Platform.ofName name).toOption
  if given.isEmpty then [.native] else given

/-- What to build. -/
def requestOf (scan : Scan) : BuildRequest :=
  { input := pathOf scan "input", output := pathOf scan "output", platforms := platformsOf scan,
    release := scan.has "release", loadable := scan.has "dynamic" }

/-- A run of a module. -/
def runOf (scan : Scan) : Command :=
  .run ((scan.value? "seed").bind wordOf?) (pathOf scan "main") (scan.values "args")

/-- The words after the name of a command. -/
def readCommand (name : String) (words : List String) : Except UsageError (Scan × Command) := do
  let read (shape : Shape) (make : Scan → Command) : Except UsageError (Scan × Command) := do
    let (scan, _) ← (Scan.start shape).readWords words
    let scan ← scan.finish
    .ok (scan, make scan)
  match name with
  | "run" => read runShape runOf
  | "build" => read buildShape fun scan => .build (requestOf scan)
  | "watch" => read buildShape fun scan => .watch (requestOf scan)
  | _ => read formatShape fun _ => .format

/-- What asking for help on some commands comes to: a command has no commands of its own. -/
def helpOn : List String → UsageError
  | [] => .help
  | [name] => if commandNames.contains name then .help else .unknownCommand
  | _ => .unknownCommand

/-- The path of the settings when none is given. -/
def standardSettings : String := "Ember.toml"

/-- The end of words without a command. -/
def withoutCommand (scan : Scan) : UsageError :=
  if scan.given.isEmpty then .nothing else .missingCommand

/-- The command that words ask for. The settings given after the name of the command count before
those given earlier. -/
def ofWords (words : List String) : Except UsageError Invocation := do
  match ← (Scan.start outerShape).readWords words with
  | (outer, none) => .error (withoutCommand (← outer.finish))
  | (outer, some (name, rest)) =>
    if name = helpCommand then .error (helpOn rest)
    else
      let (inner, command) ← readCommand name rest
      let outer ← outer.finish
      let settings := (inner.value? "config").or (outer.value? "config")
      .ok ⟨⟨settings.getD standardSettings⟩, command⟩

end Invocation

end LiveReload
