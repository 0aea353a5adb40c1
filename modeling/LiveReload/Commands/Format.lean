/-
**Formatting.**

* `Formatting.perform`: runs one tool over the sources of each language.
-/
import LiveReload.Commands.Error
import LiveReload.Files.Sources
import LiveReload.Process.Machine

namespace LiveReload

namespace Formatting

/-- Where sources are looked for. -/
def starts (settings : Settings) : List Path :=
  if settings.watch.dirs.isEmpty then [⟨"."⟩] else settings.watch.dirs

/-- The directory of artifacts, as it is spelled from a start that is named or not. -/
def skip (settings : Settings) : List Path :=
  [settings.build.outDir, (Path.mk ".").join settings.build.outDir]

/-- The sources with some extensions. -/
def sources (settings : Settings) (files : FileSystem) (extensions : List String) : List String :=
  Sources.find files (starts settings) (skip settings) extensions

/-- Runs a tool. -/
def runTool (program task : String) (arguments : List String) (machine : Machine) :
    Option CommandError × Machine :=
  let words := String.intercalate " " arguments
  let told := machine.record (Commands.say .info s!"> {program} {words}")
  match told.run program arguments with
  | (.error fault, machine) => (some (.tool program fault), machine)
  | (.ok finished, machine) =>
    if finished.status.isSuccess then
      let told := s!"{task} completed in {finished.elapsed.seconds}"
      (none, machine.record (Commands.say .info told))
    else (some (.task task finished.elapsed finished.status), machine)

/-- Runs a tool over sources, if there are any. -/
def runOver (program task : String) (flags sources : List String) (machine : Machine) :
    Option CommandError × Machine :=
  if sources.isEmpty then (none, machine) else runTool program task (flags ++ sources) machine

/-- The record when there is nothing to do. -/
def idleRecord : Record := Commands.say .info "Nothing to format"

/-- Formats all sources. -/
def perform (settings : Settings) (machine : Machine) : Outcome × Machine :=
  let rust := sources settings machine.files ["rs"]
  let c := sources settings machine.files ["c", "h"]
  if rust.isEmpty && c.isEmpty then (.ok 0, machine.record idleRecord)
  else
    match runOver "rustfmt" "Rust formatting"
        ["--edition=" ++ settings.build.toolchain.edition] rust machine with
    | (some error, machine) => (.error error, machine)
    | (none, machine) =>
      match runOver "clang-format" "C formatting" ["-i"] c machine with
      | (some error, machine) => (.error error, machine)
      | (none, machine) => (.ok 0, machine)

end Formatting

end LiveReload
