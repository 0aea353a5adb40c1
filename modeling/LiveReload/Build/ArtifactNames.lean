/-
**Names of artifacts.**

A loader that maps libraries remembers them by path, so a path that was loaded once must not be
built to again. The names of a session are counted: `<stem>-<session>-<count>.so` in one directory.
-/
import LiveReload.Path

namespace LiveReload

/-- Hands out a new path for every artifact of a session. -/
structure ArtifactNames where
  dir : Path
  stem : String
  session : Nat
  /-- How many paths were handed out. -/
  issued : Nat
deriving DecidableEq, Repr

namespace ArtifactNames

/-- Names of which none was handed out. -/
def new (dir : Path) (stem : String) (session : Nat) : ArtifactNames :=
  ⟨dir, stem, session, 0⟩

/-- The file name of the artifact with number `count`. -/
def fileName (names : ArtifactNames) (count : Nat) : String :=
  s!"{names.stem}-{names.session}-{count}.so"

/-- The path of the artifact with number `count`. -/
def path (names : ArtifactNames) (count : Nat) : Path :=
  names.dir.join ⟨names.fileName count⟩

/-- The next path. -/
def next (names : ArtifactNames) : Path × ArtifactNames :=
  (names.path (names.issued + 1), { names with issued := names.issued + 1 })

/-- The next `count` paths. -/
def nextMany (names : ArtifactNames) : Nat → List Path × ArtifactNames
  | 0 => ([], names)
  | count + 1 =>
    let (path, names) := names.next
    let (paths, names) := names.nextMany count
    (path :: paths, names)

end ArtifactNames

end LiveReload
