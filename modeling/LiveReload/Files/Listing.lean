/-
**Laying out and listing trees.**

* `FileSystem.lay`: puts an entry where it belongs, with the directories above it;
* `Node.under`: the entries of a tree, each with its path from the top.
-/
import LiveReload.Files.Basic

namespace LiveReload

/-- What is laid out at a path. -/
inductive Lot
  | file (content : Content)
  | dir
  | link (target : Path)

/-- An entry to be laid out, with the time of its last change if that matters. -/
structure Item where
  path : Path
  lot : Lot
  modified : Option Nat

mutual

/-- The entries below a directory, each with its path from there on. -/
def Node.under (above : String) : Node → List (String × Node)
  | .file .. => []
  | .link .. => []
  | .dir entries _ => Node.underAll above entries

/-- The entries of a list with all that is below them. -/
def Node.underAll (above : String) : List (String × Node) → List (String × Node)
  | [] => []
  | (name, node) :: rest =>
    (above ++ name, node) :: (Node.under (above ++ name ++ "/") node ++ Node.underAll above rest)

end

/-- An entry with another time of its last change. -/
def Node.stamped (modified : Nat) : Node → Node
  | .file content _ => .file content modified
  | .link target _ => .link target modified
  | .dir entries _ => .dir entries modified

namespace FileSystem

/-- Sets the time of the last change of what is at a path. -/
def stamp (files : FileSystem) (path : Path) (modified : Nat) : FileSystem :=
  match files.find path with
  | .ok (spot, node) => files.put spot (node.stamped modified)
  | .error _ => files

/-- Puts a link at a free path. -/
def writeLink (files : FileSystem) (path target : Path) : Except Fault FileSystem := do
  match ← files.land false path with
  | .entry _ => .error .alreadyExists
  | .vacant parent name =>
    let spot := parent ++ [name]
    .ok ((files.put spot (.link target files.clock)).note [⟨.create, spot⟩])

/-- Makes the directories above a path. -/
def makeRoom (files : FileSystem) (path : Path) : FileSystem :=
  match path.parent with
  | none => files
  | some parent => (files.makeDirectories parent).2

/-- Lays out an entry; what cannot be laid out is left out. -/
def lay (files : FileSystem) (item : Item) : FileSystem :=
  let room := files.makeRoom item.path
  let placed := match item.lot with
    | .file content => ((room.write item.path content).toOption).getD room
    | .dir => (room.makeDirectories item.path).2
    | .link target => ((room.writeLink item.path target).toOption).getD room
  match item.modified with
  | none => placed
  | some modified => placed.stamp item.path modified

/-- A time later than that of all entries with a time of their own, in nanoseconds. -/
def today : Nat := 1800000000000000000

/-- A file system with an empty directory for the program, and what every system has. -/
def standard (current : Spot) : FileSystem :=
  let bare : FileSystem :=
    { root := .dir [] 0, current := [], clock := today, journal := [] }
  let whole := [Item.mk ⟨"/dev/null"⟩ (.file (.ofText "")) none, ⟨⟨"/tmp"⟩, .dir, none⟩,
    ⟨Spot.path current, .dir, none⟩].foldl lay bare
  { whole with current, journal := [] }

/-- The entries below the current directory, each with its path from there on. -/
def listing (files : FileSystem) : List (String × Node) :=
  match files.root.at? files.current with
  | none => []
  | some node => node.under ""

end FileSystem

end LiveReload
