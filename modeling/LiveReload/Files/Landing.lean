/-
**Where a path leads.**

A path is followed name by name from the root of a tree or from a current directory. Symbolic links
on the way are replaced by their targets, at most forty of them; whether one at the end is replaced
too is up to the caller.

* `Path.steps`: the steps that a path asks for;
* `Node.follow`: an existing entry, or a free name in an existing directory, or what is in the way.
-/
import LiveReload.Fault.Basic
import LiveReload.Files.Node

namespace LiveReload

/-- One step on the way that a path describes. -/
inductive Step
  /-- Stay, which only a directory allows. -/
  | stay
  | up
  | name (text : String)
deriving DecidableEq, Repr

/-- The step that a piece of a path asks for. -/
def Step.ofPiece? (piece : List Char) : Option Step :=
  if piece.isEmpty then none
  else if piece = ['.'] then some .stay
  else if piece = ['.', '.'] then some .up
  else some (.name (String.ofList piece))

/-- A path that ends with a separator. -/
def Path.endsOpen (path : Path) : Bool := path.text.toList.getLast? = some '/'

/-- The steps that a path asks for; a separator at the end asks for a directory. -/
def Path.steps (path : Path) : List Step :=
  (pieces path.text.toList).filterMap Step.ofPiece? ++ (if path.endsOpen then [.stay] else [])

/-- The path of a spot. -/
def Spot.path (spot : Spot) : Path := ⟨"/" ++ String.intercalate "/" spot⟩

/-- Where a path leads. -/
inductive Landing
  /-- To an entry. -/
  | entry (spot : Spot)
  /-- To a free name in a directory. -/
  | vacant (parent : Spot) (name : String)
deriving DecidableEq, Repr

namespace Landing

/-- The longest name in bytes. -/
def nameLimit : Nat := 255

/-- The first length of a path in bytes that is too long. -/
def pathLimit : Nat := 4096

/-- How many links may be replaced. -/
def linkLimit : Nat := 40

/-- A path cannot hold the character that ends texts. -/
def endInside : Fault := .worded .other "file name contained an unexpected NUL byte"

end Landing

/-- Takes steps from `here`, with as many links left as `links` says; the link at the end is only
replaced if `through`. -/
def Node.follow (root : Node) (through : Bool) (links : Nat) (here : Spot) :
    List Step → Except Fault Landing
  | [] => .ok (.entry here)
  | step :: rest =>
    match root.at? here with
    | none => .error .missing
    | some node =>
      if !node.isDir then .error .notDirectory
      else match step with
        | .stay => root.follow through links here rest
        | .up => root.follow through links here.dropLast rest
        | .name name =>
          if Landing.nameLimit < name.utf8ByteSize then .error .nameTooLong
          else match node.child? name with
            | none => if rest.isEmpty then .ok (.vacant here name) else .error .missing
            | some (.link target _) =>
              if rest.isEmpty && !through then .ok (.entry (here ++ [name]))
              else match links with
                | 0 => .error .tooManyLinks
                | links + 1 =>
                  root.follow through links (if target.isAbsolute then [] else here)
                    (target.steps ++ rest)
            | some _ => root.follow through links (here ++ [name]) rest
termination_by steps => (links, steps.length)

end LiveReload
