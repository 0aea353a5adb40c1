/-
**Libraries that follow a plan.**

A planned library is a shared library with a count of its own. Each update counts one up and obeys
the line of that number in a plan: it answers the result in the line, and marks the file that the
line names.

* `PlannedLibrary.exports`: the symbols of each library;
* `PlannedLibrary.lineOf`: what a plan says to an update.
-/
import LiveReload.Path

namespace LiveReload

/-- A shared library that may follow a plan. -/
inductive PlannedLibrary
  | legacy
  /-- Counts from a hundred, and adds ten to each result that is not zero. -/
  | legacy2
  | initOnly
  | updateOnly
  | main
  | both
  | bare
deriving DecidableEq, Repr

/-- A line of a plan. -/
structure PlanLine where
  result : Nat
  file : Option Path
deriving DecidableEq, Repr

namespace PlannedLibrary

/-- The library of a name. -/
def ofName? : String → Option PlannedLibrary
  | "legacy" => some legacy
  | "legacy2" => some legacy2
  | "init" => some initOnly
  | "update" => some updateOnly
  | "main" => some main
  | "both" => some both
  | "none" => some bare
  | _ => none

/-- A symbol that every library exports. -/
def unrelated : String := "unrelated"

/-- The symbols that a library may export. -/
def symbols : List String := ["ember_main", "ember_init", "ember_update", unrelated]

/-- The symbols of a library. -/
def exports : PlannedLibrary → List String
  | legacy | legacy2 => ["ember_init", "ember_update", unrelated]
  | initOnly => ["ember_init", unrelated]
  | updateOnly => ["ember_update", unrelated]
  | main => ["ember_main", unrelated]
  | both => symbols
  | bare => [unrelated]

/-- The count that the state starts with. -/
def start : PlannedLibrary → Nat
  | legacy2 => 100
  | _ => 0

/-- The image of a library: what every image starts with, and a byte that is no text. -/
def image : List UInt8 :=
  [127, 69, 76, 70, 2, 1, 1, 0, 0, 0, 0, 0, 0, 0, 0, 0, 3, 0, 62, 0, 1, 0, 0, 0] ++
    List.replicate 40 255

/-- The words of a line. -/
def words (line : List Char) : List String :=
  ((String.ofList line).splitOn " ").filter fun word => !word.isEmpty

/-- The lines of a text. -/
def linesOf (text : String) : List (List Char) :=
  let lines := (text.splitOn "\n").map String.toList
  if lines.getLast? = some [] then lines.dropLast else lines

/-- The result when a plan has no line for an update. -/
def unplanned : PlanLine := ⟨78, none⟩

/-- What a plan says to the update with number `count`, from one on. -/
def lineOf (plan : String) (count : Nat) : PlanLine :=
  match (linesOf plan)[count - 1]? with
  | none => unplanned
  | some line =>
    match words line with
    | [] => unplanned
    | result :: rest => ⟨result.toNat?.getD 0, rest.head?.map Path.mk⟩

/-- What the library answers for a result in the plan. -/
def answer (library : PlannedLibrary) (result : Nat) : UInt32 :=
  let word := UInt32.ofNat result
  if library = legacy2 && word ≠ 0 then word + 10 else word

end PlannedLibrary

end LiveReload
