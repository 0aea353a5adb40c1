/-
**What a file system reports.**

A watched directory is watched with all directories below it, also those that links lead to. A
change is reported by the directory it happens in, with the path on which that directory was found;
of several paths the last counts. A watched file reports its own changes.

* `Reports.dirs`: the directories that are watched;
* `Reports.ofChanges`: the events of changes.
-/
import LiveReload.Files.Basic

namespace LiveReload

namespace Reports

/-- How deep directories are followed. -/
def depthLimit : Nat := 64

/-- The directories at and below `spot`, each with the path it was found on; `above` are those on
the way, which links do not lead back to. -/
def dirs (root : Node) : Nat → List Spot → Spot → Path → List (Spot × Path)
  | 0, _, _, _ => []
  | depth + 1, above, spot, path =>
    match root.at? spot with
    | some (.dir entries _) =>
      (spot, path) :: entries.flatMap fun (name, node) =>
        match node with
        | .file .. => []
        | .dir .. => dirs root depth (spot :: above) (spot ++ [name]) (path.join ⟨name⟩)
        | .link .. =>
          match root.follow true Landing.linkLimit spot [.name name] with
          | .ok (.entry target) =>
            if (spot :: above).contains target then []
            else dirs root depth (spot :: above) target (path.join ⟨name⟩)
          | _ => []
    | _ => []

/-- All directories that are watched. -/
def allDirs (files : FileSystem) (roots : List Spot) : List (Spot × Path) :=
  roots.flatMap fun root => dirs files.root depthLimit [] root (Spot.path root)

/-- The event of a change in a watched directory. -/
def inDir (watched : List (Spot × Path)) (change : Change) : List Event :=
  match watched.reverse.lookup change.spot.dropLast, change.spot.getLast? with
  | some path, some name => [⟨change.kind, [path.join ⟨name⟩]⟩]
  | _, _ => []

/-- The events of a change of a watched file. -/
def ofFile (files : FileSystem) (roots : List Spot) (change : Change) : List Event :=
  if roots.contains change.spot && !(files.root.at? change.spot).any Node.isDir then
    [⟨change.kind, [Spot.path change.spot]⟩]
  else []

/-- The events of changes. -/
def ofChanges (files : FileSystem) (roots : List Spot) : List Change → List Event
  | [] => []
  | changes =>
    let watched := allDirs files roots
    changes.flatMap fun change => inDir watched change ++ ofFile files roots change

end Reports

end LiveReload
