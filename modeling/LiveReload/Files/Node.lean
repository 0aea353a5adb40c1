/-
**Trees of files.**

A node is a file, a symbolic link, or a directory with named nodes. A spot is a place in a tree,
given by the names from the root on.

* `Node.at?`: what is at a spot;
* `Node.insertAt`, `Node.eraseAt`: a tree with one spot changed.
-/
import LiveReload.Demo.Planned
import LiveReload.Entries
import LiveReload.Path

namespace LiveReload

/-- A place in a tree: the names from the root on. -/
abbrev Spot := List String

/-- What a file holds: bytes, which may be the image of a shared library. -/
structure Content where
  bytes : List UInt8
  library : Option PlannedLibrary
deriving DecidableEq, Repr

/-- A content that is no library. -/
def Content.ofText (text : String) : Content := ⟨text.toUTF8.data.toList, none⟩

/-- An entry of a tree with the time of its last change, in nanoseconds. -/
inductive Node
  | file (content : Content) (modified : Nat)
  | link (target : Path) (modified : Nat)
  | dir (entries : List (String × Node)) (modified : Nat)

namespace Node

/-- The entry is a directory. -/
def isDir : Node → Bool
  | dir .. => true
  | _ => false

/-- The entry is a file. -/
def isFile : Node → Bool
  | file .. => true
  | _ => false

/-- The time of the last change. -/
def modified : Node → Nat
  | file _ modified => modified
  | link _ modified => modified
  | dir _ modified => modified

/-- The entries of a directory. -/
def entries : Node → List (String × Node)
  | dir entries _ => entries
  | _ => []

/-- The entry of a name in a directory. -/
def child? (node : Node) (name : String) : Option Node :=
  node.entries.lookup name

/-- The node at a spot. -/
def at? : Node → Spot → Option Node
  | node, [] => some node
  | node, name :: rest => (node.child? name).bind fun child => child.at? rest

/-- The tree with `new` at a spot whose directory exists. -/
def insertAt (new : Node) : Node → Spot → Node
  | _, [] => new
  | dir entries modified, name :: rest =>
    match entries.lookup name with
    | some child => dir (Entries.put name (insertAt new child rest) entries) modified
    | none => dir (if rest.isEmpty then Entries.put name new entries else entries) modified
  | node, _ :: _ => node

/-- The tree without what is at a spot; the root stays. -/
def eraseAt : Node → Spot → Node
  | dir entries modified, [name] => dir (Entries.erase name entries) modified
  | dir entries modified, name :: rest =>
    match entries.lookup name with
    | some child => dir (Entries.put name (eraseAt child rest) entries) modified
    | none => dir entries modified
  | node, _ => node

end Node

end LiveReload
