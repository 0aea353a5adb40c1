/-
**Documents of settings: values.**

A document is a table of values by name. Tables are told apart by how they came about, because that
decides whether more may be added to them later.

* `Table.update?`: changes the table that a path leads to, and makes the tables on the way;
* `Table.define?`: adds a value at a path of names joined by dots;
* `Table.open?`: what a header does.
-/
import LiveReload.Entries

namespace LiveReload.Toml

/-- How a table came about. -/
inductive TableKind
  /-- Between braces; it is complete. -/
  | inline
  /-- Under a header of its own. -/
  | header
  /-- On the way of a header. -/
  | implied
  /-- On the way of a path of names joined by dots. -/
  | dotted
deriving DecidableEq, Repr

/-- A value of a document. -/
inductive Value
  | text (text : String)
  /-- A whole number, if its characters write one that can be held. -/
  | integer (value : Option Int)
  /-- A number with a fraction or an exponent; `held` if it is not too large. -/
  | float (held : Bool)
  | bool (value : Bool)
  /-- A date, a time, or both. -/
  | moment (text : String)
  | array (items : List Value)
  /-- Tables under headers of one name. -/
  | tables (items : List Value)
  | table (kind : TableKind) (entries : List (String × Value))

mutual

/-- All numbers in the value are held. -/
def Value.isHeld : Value → Bool
  | .integer value => value.isSome
  | .float held => held
  | .array items => allHeld items
  | .tables items => allHeld items
  | .table _ entries => allFieldsHeld entries
  | _ => true

/-- All numbers in the items are held. -/
def allHeld : List Value → Bool
  | [] => true
  | item :: rest => item.isHeld && allHeld rest

/-- All numbers in the fields are held. -/
def allFieldsHeld : List (String × Value) → Bool
  | [] => true
  | (_, value) :: rest => value.isHeld && allFieldsHeld rest

end

/-- A table of values. -/
structure Table where
  kind : TableKind
  entries : List (String × Value)

namespace Table

/-- The value of a name. -/
def get? (table : Table) (name : String) : Option Value := table.entries.lookup name

/-- The table with the value of one name replaced, or added at the end. -/
def put (table : Table) (name : String) (value : Value) : Table :=
  { table with entries := Entries.put name value table.entries }

/-- A table as a value. -/
def toValue (table : Table) : Value := .table table.kind table.entries

/-- The path of a header leads through the table. -/
def admitsHeader : TableKind → Bool
  | .inline => false
  | _ => true

/-- A path of names joined by dots leads through the table. -/
def admitsDots : TableKind → Bool
  | .implied => true
  | .dotted => true
  | _ => false

/-- Changes the table that a path leads to; `dotted` tells whether the path is one of names joined
by dots or that of a header. -/
def update? (dotted : Bool) (change : Table → Option Table) : List String → Table → Option Table
  | [], table => change table
  | name :: rest, table =>
    let replace (value : Table → Value) (inner : Table) : Option Table :=
      (update? dotted change rest inner).map fun inner => table.put name (value inner)
    match table.get? name with
    | none => replace toValue ⟨if dotted then .dotted else .implied, []⟩
    | some (.table kind entries) =>
      if (if dotted then admitsDots kind else admitsHeader kind) then
        replace toValue ⟨kind, entries⟩
      else none
    | some (.tables items) =>
      match items.getLast? with
      | some (.table kind entries) =>
        replace (fun inner => .tables (items.dropLast ++ [inner.toValue])) ⟨kind, entries⟩
      | _ => none
    | some _ => none

/-- Adds a value under a new name; `direct` tells whether the name stood alone, which it does
outside tables made by dots and only there. -/
def add? (direct : Bool) (name : String) (value : Value) (table : Table) : Option Table :=
  if decide (table.kind = .dotted) = direct then none
  else match table.get? name with
    | some _ => none
    | none => some (table.put name value)

/-- Adds a value at a path of names joined by dots. -/
def define? (path : List String) (value : Value) (table : Table) : Option Table :=
  match path.getLast? with
  | none => none
  | some name =>
    update? true (add? path.dropLast.isEmpty name value) path.dropLast table

/-- Opens a table under a header: it is new, or was only on the way of other headers so far. -/
def openAs? (name : String) (table : Table) : Option Table :=
  match table.get? name with
  | none => some (table.put name (.table .header []))
  | some (.table .implied entries) => some (table.put name (.table .header entries))
  | some _ => none

/-- Opens one more of several tables under headers of one name. -/
def openNext? (name : String) (table : Table) : Option Table :=
  match table.get? name with
  | none => some (table.put name (.tables [.table .header []]))
  | some (.tables items) => some (table.put name (.tables (items ++ [.table .header []])))
  | some _ => none

/-- Opens the table of a header. -/
def open? (several : Bool) (path : List String) (table : Table) : Option Table :=
  match path.getLast? with
  | none => none
  | some name =>
    update? false (if several then openNext? name else openAs? name) path.dropLast table

end Table

end LiveReload.Toml
