/-
**Modules from shared libraries.**

A shared library is mapped once and stays mapped for good: a path that was met before, or that leads
to a file that is mapped, is the mapping that there is. A path without a separator is looked for
elsewhere, where no module is, and the empty path is the host itself, which exports nothing. So an
address stands for a mapping and one of its symbols, and the texts of a mapping call it what it was
called first.

* `LibraryLoader.load`: the module of a path;
* `LibraryLoader.libraryAt?`: the library that an address lies in.
-/
import LiveReload.Files.Basic
import LiveReload.Log
import LiveReload.Module.EntryPoint
import LiveReload.Module.Image

namespace LiveReload

/-- A shared library that is mapped. -/
structure Mapping where
  /-- What errors call it. -/
  name : Path
  /-- Other paths that led to it. -/
  aliases : List Path
  spot : Spot
  library : PlannedLibrary
deriving DecidableEq, Repr

/-- The path is known to lead to the mapping. -/
def Mapping.isAt (mapping : Mapping) (path : Path) : Bool :=
  mapping.name = path || mapping.aliases.contains path

/-- Maps shared libraries, which stay mapped. -/
structure LibraryLoader where
  mappings : List Mapping
  /-- How many modules were loaded. -/
  generations : Nat
deriving DecidableEq, Repr

namespace LibraryLoader

/-- A loader that has mapped nothing. -/
def empty : LibraryLoader := ⟨[], 0⟩

/-- A name as the system is given it: the character that ends names may stand at its end, and
nowhere else. -/
def systemName (text : String) : Except String String :=
  let ending := Char.ofNat 0
  let chars := text.toList
  let body := if chars.getLast? = some ending then chars.dropLast else chars
  if !body.contains ending then .ok (String.ofList body)
  else if body.length < chars.length then
    .error "could not create a C string from bytes with trailing null"
  else .error "could not create a C string from bytes"

/-- Why a file is not opened. -/
def unopened (fault : Fault) : String :=
  let reason := match fault with
    | .system number => systemText number
    | other => other.message
  s!"cannot open shared object file: {reason}"

/-- The library at a path and where it is, or why there is none. -/
def open? (files : FileSystem) (path : Path) : Except String (Spot × PlannedLibrary) :=
  if !path.text.toList.contains '/' then
    .error (unopened (if Landing.nameLimit < path.text.utf8ByteSize then .nameTooLong else .missing))
  else match files.find path with
    | .error fault => .error (unopened fault)
    | .ok (spot, .file content _) =>
      match content.library with
      | some library => .ok (spot, library)
      | none => .error (Image.flaw content.bytes)
    | .ok _ => .error "cannot read file data: Is a directory"

/-- The address of a symbol in the mapping with number `index`. -/
def address (index symbol : Nat) : Address :=
  ⟨index * PlannedLibrary.symbols.length + symbol + 1, Nat.succ_ne_zero _⟩

/-- The address of a symbol in a mapping, or why there is none. -/
def symbol? (index : Nat) (mapping : Mapping) (name : String) : Except String Address := do
  let symbol ← systemName name
  if mapping.library.exports.contains symbol then
    .ok (address index (PlannedLibrary.symbols.idxOf symbol))
  else .error s!"{mapping.name.text}: undefined symbol: {symbol}"

/-- The module of a mapping. -/
def moduleOf (path : Path) (index : Nat) (mapping : Mapping) : Module :=
  { path
    find := fun name =>
      match symbol? index mapping name with
      | .ok address => .ok address
      | .error reason => .error (.missingSymbol name reason) }

/-- What the host is called in texts. -/
def hostName : String := "<main program>"

/-- Why the host has no symbol of a name. -/
def hostReason (name : String) : String :=
  match systemName name with
  | .error reason => reason
  | .ok symbol => s!"{hostName}: undefined symbol: {symbol}"

/-- The host as a module. -/
def hostModule (path : Path) : Module :=
  { path, find := fun name => .error (.missingSymbol name (hostReason name)) }

/-- The number and the mapping of a path, after it was mapped where it was not. -/
def map (mappings : List Mapping) (files : FileSystem) (path : Path) :
    Except String ((Nat × Mapping) × List Mapping) := do
  match mappings.zipIdx.find? fun (mapping, _) => mapping.isAt path with
  | some (mapping, index) => .ok ((index, mapping), mappings)
  | none =>
    let (spot, library) ← open? files path
    match mappings.zipIdx.find? fun (mapping, _) => mapping.spot = spot with
    | some (mapping, index) =>
      let named := { mapping with aliases := mapping.aliases ++ [path] }
      .ok ((index, named), mappings.set index named)
    | none =>
      let mapping : Mapping := ⟨path, [], spot, library⟩
      .ok ((mappings.length, mapping), mappings ++ [mapping])

/-- Loads the module of a path. -/
def load (loader : LibraryLoader) (files : FileSystem) (path : Path) :
    Except LoadError Module × LibraryLoader :=
  match systemName path.text with
  | .error reason => (.error (.opening path reason), loader)
  | .ok "" => (.ok (hostModule path), { loader with generations := loader.generations + 1 })
  | .ok name =>
    match map loader.mappings files ⟨name⟩ with
    | .error reason => (.error (.opening path s!"{name}: {reason}"), loader)
    | .ok ((index, mapping), mappings) =>
      (.ok (moduleOf path index mapping), ⟨mappings, loader.generations + 1⟩)

/-- The record of a module that was loaded. -/
def loadedRecord (loader : LibraryLoader) (path : Path) : Record :=
  ⟨.debug, "ember_runtime::loader",
    s!"Mapped '{path.text}' ({loader.generations} generations resident)"⟩

/-- The library that an address lies in. -/
def libraryAt? (loader : LibraryLoader) (address : Address) : Option PlannedLibrary :=
  loader.mappings[(address.value - 1) / PlannedLibrary.symbols.length]?.map Mapping.library

end LibraryLoader

end LiveReload
