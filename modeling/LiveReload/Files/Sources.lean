/-
**Finding sources.**

Sources are the files below some directories with one of some extensions. Directories of build
results are left out with all that is in them, hidden entries too, and links are not followed
except where the search starts.

* `Sources.isKept`, `Sources.isHidden`: which entries are left out;
* `Sources.find`: the sources in ascending order, as often as they are reached.
-/
import LiveReload.Files.Basic
import LiveReload.RawPath

namespace LiveReload

namespace Sources

/-- The name of directories that hold build results wherever they are. -/
def resultsName : String := "target"

/-- An entry that is not among build results. -/
def isKept (skip : List Path) (path : Path) (name : String) : Bool :=
  !(skip.any path.startsWith) && name ≠ resultsName

/-- A hidden entry, by what is shown for the bytes of its name. -/
def isHidden (name : String) : Bool :=
  (Utf8.decodeLossy (Utf8.encode name)).toList.head? = some '.'

mutual

/-- The files of an entry that is kept; a directory is read by its path as a whole. -/
def filesOf (skip : List Path) (path : Path) : Node → List Path
  | .file .. => [path]
  | .link .. => []
  | .dir entries _ => if FileSystem.tooLong path then [] else filesAmong skip path entries

/-- The files of entries below a directory. -/
def filesAmong (skip : List Path) (above : Path) : List (String × Node) → List Path
  | [] => []
  | (name, node) :: rest =>
    (if !isHidden name && isKept skip (above.join ⟨name⟩) name then
      filesOf skip (above.join ⟨name⟩) node
    else []) ++ filesAmong skip above rest

end

/-- The name that a start is told by. -/
def startName (path : Path) : String := path.fileName.getD path.text

/-- The files of a start. -/
def filesFrom (files : FileSystem) (skip : List Path) (start : Path) : List Path :=
  match files.land false start with
  | .ok (.entry spot) =>
    match files.root.at? spot with
    | none => []
    | some (.link ..) =>
      match files.find start with
      | .ok (_, node) => filesAmong skip start node.entries
      | .error _ => []
    | some node => if isKept skip start (startName start) then filesOf skip start node else []
  | _ => []

/-- The path has one of the extensions; one that is no text is none of them. -/
def hasExtension (extensions : List String) (path : RawPath) : Bool :=
  path.extensionText?.any extensions.contains

/-- The sources in ascending order, as often as they are reached. -/
def find (files : FileSystem) (starts skip : List Path) (extensions : List String) :
    List String :=
  ((((starts.flatMap (filesFrom files skip)).map RawPath.ofPath).filter
    (hasExtension extensions)).map fun path => path.text.text).mergeSort fun a b => decide (a ≤ b)

end Sources

end LiveReload
