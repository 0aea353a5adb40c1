/-
**File systems.**

A file system is a tree with a current directory. Every operation answers what the system would:
the fault that stands in the way, or its result and the tree afterwards. A change of the tree is
noted in a journal, which is what watchers hear of.

* `FileSystem.read`, `FileSystem.canonical`, `FileSystem.isDirectory`: questions;
* `FileSystem.write`, `FileSystem.append`, `FileSystem.remove`, `FileSystem.makeDirectory`: changes;
* `FileSystem.makeDirectories`: a directory with all that is missing above it.
-/
import LiveReload.Files.Landing
import LiveReload.Text.Utf8
import LiveReload.Watch.Notification

namespace LiveReload

/-- Something that happened to what is at a spot. -/
structure Change where
  kind : EventKind
  spot : Spot
deriving DecidableEq, Repr

/-- A tree with a current directory. -/
structure FileSystem where
  root : Node
  current : Spot
  /-- The time that the next change is stamped with. -/
  clock : Nat
  /-- The changes that nobody was told of yet, the oldest first. -/
  journal : List Change

namespace FileSystem

/-- Where a path of any length leads. -/
def walk (files : FileSystem) (through : Bool) (path : Path) : Except Fault Landing :=
  if path.text.isEmpty then .error .missing
  else if path.text.toList.contains (Char.ofNat 0) then .error Landing.endInside
  else
    files.root.follow through Landing.linkLimit (if path.isAbsolute then [] else files.current)
      path.steps

/-- The path is too long to be given to the system as a whole. -/
def tooLong (path : Path) : Bool :=
  Landing.pathLimit ≤ path.text.utf8ByteSize && !path.text.toList.contains (Char.ofNat 0)

/-- Where a path leads. -/
def land (files : FileSystem) (through : Bool) (path : Path) : Except Fault Landing :=
  if tooLong path then .error .nameTooLong else files.walk through path

/-- A path without the separators at its end. -/
def closed (path : Path) : Path :=
  let kept := path.text.toList.reverse.dropWhile (· = '/')
  if kept.isEmpty then path else ⟨String.ofList kept.reverse⟩

/-- Where a path leads if separators at its end ask for nothing. -/
def landClosed (files : FileSystem) (path : Path) : Except Fault Landing :=
  if tooLong path then .error .nameTooLong else files.walk false (closed path)

/-- The entry that a landing reached. -/
def entryOf (files : FileSystem) : Landing → Except Fault (Spot × Node)
  | .vacant .. => .error .missing
  | .entry spot =>
    match files.root.at? spot with
    | none => .error .missing
    | some node => .ok (spot, node)

/-- The entry that a path leads to. -/
def find (files : FileSystem) (path : Path) : Except Fault (Spot × Node) := do
  files.entryOf (← files.land true path)

/-- The path leads to an entry. -/
def exists? (files : FileSystem) (path : Path) : Bool :=
  match files.find path with
  | .ok _ => true
  | .error _ => false

/-- The path leads to a directory. -/
def isDirectory (files : FileSystem) (path : Path) : Bool :=
  match files.find path with
  | .ok (_, node) => node.isDir
  | .error _ => false

/-- The content of a file. -/
def read (files : FileSystem) (path : Path) : Except Fault Content := do
  match ← files.find path with
  | (_, .file content _) => .ok content
  | _ => .error .isDirectory

/-- A file that holds no text. -/
def notText : Fault := .worded .other "stream did not contain valid UTF-8"

/-- The text of a file. -/
def readText (files : FileSystem) (path : Path) : Except Fault String := do
  let content ← files.read path
  match Utf8.decode? content.bytes with
  | some text => .ok text
  | none => .error notText

/-- The one spelling of an existing entry that starts at the root and holds no links. The path is
followed piece by piece, so that it may be of any length. -/
def canonical (files : FileSystem) (path : Path) : Except Fault Path := do
  let (spot, _) ← files.entryOf (← files.walk true path)
  .ok (Spot.path spot)

/-- The path of the current directory. -/
def currentPath (files : FileSystem) : Path := Spot.path files.current

/-- Notes changes. -/
def note (files : FileSystem) (changes : List Change) : FileSystem :=
  { files with journal := files.journal ++ changes, clock := files.clock + 1 }

/-- Puts a node at a spot. -/
def put (files : FileSystem) (spot : Spot) (node : Node) : FileSystem :=
  { files with root := Node.insertAt node files.root spot }

/-- Puts a content at the end of a path; `join` makes it of the old content of a file that is
there. -/
def store (files : FileSystem) (path : Path) (join : Content → Content) :
    Except Fault FileSystem := do
  match ← files.land true path with
  | .vacant parent name =>
    let spot := parent ++ [name]
    .ok ((files.put spot (.file (join ⟨[], none⟩) files.clock)).note
      [⟨.create, spot⟩, ⟨.modify, spot⟩])
  | .entry spot =>
    match files.root.at? spot with
    | some (.file old _) =>
      .ok ((files.put spot (.file (join old) files.clock)).note [⟨.modify, spot⟩])
    | _ => .error .isDirectory

/-- Replaces the content of a file, or makes one. -/
def write (files : FileSystem) (path : Path) (content : Content) : Except Fault FileSystem :=
  files.store path fun _ => content

/-- Adds bytes to a file, or makes one. -/
def append (files : FileSystem) (path : Path) (bytes : List UInt8) : Except Fault FileSystem :=
  files.store path fun old => { old with bytes := old.bytes ++ bytes }

/-- Removes an entry that is no directory, which no path with a separator at its end names. -/
def remove (files : FileSystem) (path : Path) : Except Fault FileSystem := do
  match ← files.entryOf (← files.landClosed path) with
  | (_, .dir ..) => .error .isDirectory
  | (spot, _) =>
    if path.endsOpen then .error .notDirectory
    else .ok ({ files with root := files.root.eraseAt spot }.note [⟨.remove, spot⟩])

/-- Makes a directory. -/
def makeDirectory (files : FileSystem) (path : Path) : Except Fault FileSystem := do
  match ← files.landClosed path with
  | .entry _ => .error .alreadyExists
  | .vacant parent name =>
    let spot := parent ++ [name]
    .ok ((files.put spot (.dir [] files.clock)).note [⟨.createDirectory, spot⟩])

/-- Makes the first of several directories, each inside the next; what is missing outside is made
before. Answers the fault that stood in the way, and the tree. -/
def makeNested (files : FileSystem) : List Path → Option Fault × FileSystem
  | [] => (none, files)
  | path :: outer =>
    match files.makeDirectory path with
    | .ok files => (none, files)
    | .error fault =>
      if fault.isMissing then
        match files.makeNested outer with
        | (some fault, files) => (some fault, files)
        | (none, files) =>
          match files.makeDirectory path with
          | .ok files => (none, files)
          | .error fault => (if files.isDirectory path then none else some fault, files)
      else (if files.isDirectory path then none else some fault, files)

/-- Makes a directory with all that is missing above it. -/
def makeDirectories (files : FileSystem) (path : Path) : Option Fault × FileSystem :=
  files.makeNested path.ancestors

end FileSystem

end LiveReload
