/-
**Paths.**

A path is a text, kept as it was spelled, and is read as a list of components. Repeated
separators, a separator at the end and a `.` that is not the first piece say nothing, and `..` is a
component like any other:

* `Path.components` reads a path; two spellings with the same components are the same path;
* `Path.join`, `Path.parent`, `Path.ancestors`, `Path.setExtension` and `Path.withExtension` work on
  the spelling;
* `Path.fileName`, `Path.stem`, `Path.extension` and `Path.startsWith` work on the components.
-/

namespace LiveReload

/-- A path as it was spelled. -/
structure Path where
  text : String
deriving DecidableEq, Repr, Inhabited

/-- One step of a path. -/
inductive Component
  | root
  | here
  | up
  | name (text : String)
deriving DecidableEq, Repr

namespace Path

/-- The stretches of a text between separators. -/
def pieces : List Char → List (List Char)
  | [] => [[]]
  | c :: rest =>
    if c = '/' then [] :: pieces rest
    else match pieces rest with
      | [] => [[c]]
      | piece :: others => (c :: piece) :: others

/-- Pieces with separators between them. -/
def unpieces : List (List Char) → List Char
  | [] => []
  | [piece] => piece
  | piece :: others => piece ++ '/' :: unpieces others

theorem pieces_ne_nil (text : List Char) : pieces text ≠ [] := by
  induction text with
  | nil => simp [pieces]
  | cons c rest _ =>
    unfold pieces
    split
    · simp
    · split <;> simp

/-- Cutting a text at its separators loses nothing. -/
theorem unpieces_pieces (text : List Char) : unpieces (pieces text) = text := by
  induction text with
  | nil => rfl
  | cons c rest step =>
    unfold pieces
    split
    · rename_i separator
      subst separator
      cases shape : pieces rest with
      | nil => exact absurd shape (pieces_ne_nil rest)
      | cons piece others =>
        rw [shape] at step
        simp [unpieces, step]
    · cases shape : pieces rest with
      | nil => exact absurd shape (pieces_ne_nil rest)
      | cons piece others =>
        rw [shape] at step
        cases others with
        | nil => simpa [unpieces] using step
        | cons next more => simpa [unpieces] using step

/-- A piece says nothing when it is empty or a single dot. -/
def isIdle (piece : List Char) : Bool :=
  piece.isEmpty || piece = ['.']

/-- The component that a piece after the first spells. -/
def componentOf (piece : List Char) : Component :=
  if piece = ['.', '.'] then .up else .name (String.ofList piece)

/-- What the first piece of a path says before all others: a root, a leading dot, or nothing. -/
def leading : List (List Char) → List Component
  | [] :: _ :: _ => [.root]
  | ['.'] :: _ => [.here]
  | _ => []

/-- The components of a path. -/
def components (path : Path) : List Component :=
  let all := pieces path.text.toList
  leading all ++ (all.filter fun piece => !isIdle piece).map componentOf

/-- Two spellings of one path. -/
def same (a b : Path) : Bool := a.components = b.components

/-- A path that starts at the root. -/
def isAbsolute (path : Path) : Bool := path.text.toList.head? = some '/'

/-- `path` seen from `base`: an absolute path stands alone. -/
def join (base path : Path) : Path :=
  if path.isAbsolute then path
  else if base.text.isEmpty || base.text.toList.getLast? = some '/' then ⟨base.text ++ path.text⟩
  else ⟨base.text ++ "/" ++ path.text⟩

/-- The last component, if it is a name. -/
def fileName (path : Path) : Option String :=
  match path.components.getLast? with
  | some (.name text) => some text
  | _ => none

/-- A file name cut at its last dot, unless it has none or starts with it. -/
def cutName (name : String) : String × Option String :=
  let back := name.toList.reverse
  let before := (back.dropWhile (· ≠ '.')).drop 1
  if before.isEmpty then (name, none)
  else (String.ofList before.reverse, some (String.ofList (back.takeWhile (· ≠ '.')).reverse))

/-- The file name without its extension. -/
def stem (path : Path) : Option String :=
  path.fileName.map fun name => (cutName name).1

/-- What follows the last dot of the file name. -/
def extension (path : Path) : Option String :=
  path.fileName.bind fun name => (cutName name).2

/-- The pieces after the first, the last of them first, from the last that is not idle on. -/
def heldBack (others : List (List Char)) : List (List Char) :=
  others.reverse.dropWhile isIdle

/-- A spelling up to the end of its last component. -/
def trimmed (path : Path) : List Char :=
  match pieces path.text.toList with
  | [] => []
  | first :: others => unpieces (first :: (heldBack others).reverse)

/-- A path without its last component, if it has one that is not the root. -/
def parent (path : Path) : Option Path :=
  match pieces path.text.toList with
  | [] => none
  | first :: others =>
    match heldBack others with
    | [] => if first.isEmpty then none else some ⟨""⟩
    | _ :: remaining =>
      match heldBack remaining.reverse with
      | [] => some ⟨if first.isEmpty then "/" else String.ofList first⟩
      | kept => some ⟨String.ofList (unpieces (first :: kept.reverse))⟩

/-- A path and the paths above it that are not empty, as far as `fuel` goes. -/
def ancestorsWithin : Nat → Path → List Path
  | 0, _ => []
  | fuel + 1, path =>
    if path.text.isEmpty then []
    else path :: match path.parent with
      | none => []
      | some parent => ancestorsWithin fuel parent

/-- A path and the paths above it that are not empty, from the inside out. -/
def ancestors (path : Path) : List Path := ancestorsWithin (path.text.length + 1) path

/-- Replaces the extension of the file name, or adds one; a path without a file name stays. -/
def setExtension (path : Path) (extension : String) : Path :=
  match path.fileName with
  | none => path
  | some name =>
    let dropped := name.length - (cutName name).1.length
    let kept := (path.trimmed.reverse.drop dropped).reverse
    if extension.isEmpty then ⟨String.ofList kept⟩
    else ⟨String.ofList kept ++ "." ++ extension⟩

/-- Cuts the old extension off the end of the spelling, then sets the new one. -/
def withExtension (path : Path) (extension : String) : Path :=
  match path.extension with
  | none => path.setExtension extension
  | some old =>
    let kept := (path.text.toList.reverse.drop old.length).reverse
    (Path.mk (String.ofList kept)).setExtension extension

/-- Every component of `base` starts `path`. -/
def startsWith (path base : Path) : Bool :=
  base.components.isPrefixOf path.components

end Path

end LiveReload
