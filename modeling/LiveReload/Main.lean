/-
**The command line.**

Takes the files below the current directory as they are, performs the command, and shows its log.
No programs are started here, so a command that needs one fails as if there were none.
-/
import LiveReload.Commands.Program
import LiveReload.Files.Listing
import LiveReload.Log.Filter
import LiveReload.Process.Toolbox

namespace LiveReload.Terminal

/-- The time of the last change in nanoseconds. -/
def modifiedOf (data : IO.FS.Metadata) : Nat :=
  (data.modified.sec * 1000000000 + data.modified.nsec.toNat).toNat

/-- An entry with all that is below it. Only files of one name are read. -/
partial def nodeOf (settingsName : Option String) (entry : IO.FS.DirEntry) : IO Node := do
  let data ← entry.path.symlinkMetadata
  match data.type with
  | .dir =>
    let entries ← entry.path.readDir
    let nodes ← entries.toList.mapM fun entry => do
      return (entry.fileName, ← nodeOf settingsName entry)
    return .dir nodes (modifiedOf data)
  | .symlink => return .link ⟨(← IO.FS.realPath entry.path).toString⟩ (modifiedOf data)
  | _ =>
    if settingsName = some entry.fileName then
      return .file ⟨(← IO.FS.readBinFile entry.path).data.toList, none⟩ (modifiedOf data)
    else return .file ⟨[], none⟩ (modifiedOf data)

/-- The files below the current directory. -/
def files (settings : Path) : IO FileSystem := do
  let here := (← IO.currentDir)
  let spot := (Path.mk here.toString).steps.filterMap fun
    | .name name => some name
    | _ => none
  let entries ← here.readDir
  let nodes ← entries.toList.mapM fun entry => do
    return (entry.fileName, ← nodeOf settings.fileName entry)
  let start := FileSystem.standard spot
  return start.put spot (.dir nodes start.clock)

/-- The path of the settings among words. -/
def settingsOf (words : List String) : Path :=
  match Invocation.ofWords words with
  | .ok invocation => invocation.settings
  | .error _ => ⟨Invocation.standardSettings⟩

/-- The environment variable that holds the log filter. -/
def filterVariable : String := "RUST_LOG"

/-- A record as a line. -/
def lineOf (record : Record) : String :=
  "[" ++ record.severity.name ++ " " ++ record.source ++ "] " ++ record.text

/-- Performs a command line. -/
def perform (words : List String) : IO UInt32 := do
  let filter := ((← IO.getEnv filterVariable).map LogFilter.ofText).getD .standard
  let program ← IO.appPath
  let hostDir := (program.parent.map fun dir => Path.mk dir.toString).getD ⟨"."⟩
  let session ← IO.monoMsNow
  let surroundings : Surroundings := { hostDir, session, edit := none, halt := none }
  let machine := Machine.new (← files (settingsOf words)) (Toolbox.launcher [])
  let (status, machine) := Program.run words surroundings machine
  for record in machine.records do
    if filter.shows record then IO.eprintln (lineOf record)
  return UInt32.ofNat status

end LiveReload.Terminal

/-- Performs the command line. -/
def main (words : List String) : IO UInt32 := LiveReload.Terminal.perform words
