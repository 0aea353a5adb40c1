/-
**Tools.**

A toolbox holds tools by name. A tool marks the files it touches, writes its product to the place
after the last `-o` among its arguments, prints, and ends, all in no time. A program with a
separator in its name is no tool but a file, and no file can be run.

* `Toolbox.launcher`: what programs do on a machine with these tools.
-/
import LiveReload.Process.Machine

namespace LiveReload

/-- What one call of a tool makes. -/
inductive Product
  | library (library : PlannedLibrary)
  /-- Nothing: the call fails with a code. -/
  | failure (code : Nat)
deriving DecidableEq, Repr

/-- What a tool does when it is called. -/
structure Tool where
  code : Nat
  stdout : List UInt8
  stderr : List UInt8
  /-- The text that each call writes. -/
  text : Option String
  /-- The signal that each call ends itself with. -/
  signal : Option Nat
  /-- What the calls make in turn; the last entry goes on for all later calls. -/
  products : List Product
  /-- The files that each call marks. -/
  touches : List Path
deriving DecidableEq, Repr

/-- Tools by name. -/
abbrev Toolbox := List (String × Tool)

namespace Tool

/-- The mark that a touched file gets. -/
def mark : List UInt8 := "x".toUTF8.data.toList

/-- Does what the file system allows. -/
def attempt (operation : FileSystem → Except Fault FileSystem) (files : FileSystem) : FileSystem :=
  match operation files with
  | .ok files => files
  | .error _ => files

/-- Marks a file. -/
def touch (path : Path) : FileSystem → FileSystem :=
  attempt fun files => files.append path mark

/-- The place after the last `-o`. -/
def place? : List String → Option Path
  | [] => none
  | [_] => none
  | flag :: word :: rest =>
    match place? (word :: rest) with
    | some path => some path
    | none => if flag = "-o" then some ⟨word⟩ else none

/-- Writes a content to the place for it, if there is one. -/
def deliver (arguments : List String) (content : Content) (files : FileSystem) : FileSystem :=
  match place? arguments with
  | none => files
  | some path => attempt (fun files => files.write path content) files

/-- What the call with number `index`, from zero on, makes. -/
def product? (tool : Tool) (index : Nat) : Option Product :=
  (tool.products[index]?).or tool.products.getLast?

/-- The complaint of a call that makes nothing. -/
def complaint : List UInt8 := "error: broken\n".toUTF8.data.toList

/-- One call of a tool. -/
def call (tool : Tool) (index : Nat) (arguments : List String) (files : FileSystem) :
    Finished × FileSystem :=
  let touched := tool.touches.foldl (fun files path => touch path files) files
  let written := match tool.text with
    | none => touched
    | some text => deliver arguments (.ofText text) touched
  match tool.product? index with
  | some (.failure code) => (⟨.exited code, tool.stdout, tool.stderr ++ complaint, .zero⟩, written)
  | product =>
    let made := match product with
      | some (.library library) => deliver arguments ⟨PlannedLibrary.image, some library⟩ written
      | _ => written
    let status := match tool.signal.filter Status.isDeadly with
      | some signal => Status.killed signal
      | none => .exited (tool.code % 256)
    (⟨status, tool.stdout, tool.stderr, .zero⟩, made)

end Tool

namespace Toolbox

/-- A file with a name of its own is no program. -/
def refusal (files : FileSystem) (program : String) : Fault :=
  if program.toList.contains '/' then
    match files.find ⟨program⟩ with
    | .error fault => fault
    | .ok _ => .denied
  else if program = "." || program = ".." then .denied
  else if Landing.nameLimit < program.utf8ByteSize then .nameTooLong
  else .missing

/-- How often a program was called. -/
def callsOf (calls : List CommandLine) (program : String) : Nat :=
  (calls.filter fun call => call.head? = some program).length

/-- What programs do on a machine with these tools. -/
def launcher (tools : Toolbox) : Launcher := fun calls program arguments files =>
  match tools.lookup program with
  | none => (.error (refusal files program), files)
  | some tool =>
    if program.toList.contains '/' then (.error (refusal files program), files)
    else
      let (finished, files) := tool.call (callsOf calls program) arguments files
      (.ok finished, files)

end Toolbox

end LiveReload
