/-
**Modules from a table of symbols.**

A host that is linked with its module loads it from a table: every load gives a module with the
symbols that the table holds at that moment.
-/
import LiveReload.Module.EntryPoint

namespace LiveReload

/-- Addresses by name; of several entries of one name the first counts. -/
abbrev SymbolTable := List (String × Address)

/-- A loader over a table of symbols. -/
structure TableLoader where
  symbols : SymbolTable
  /-- How many modules were loaded. -/
  loads : Nat

namespace TableLoader

/-- A loader without symbols. -/
def empty : TableLoader := ⟨[], 0⟩

/-- Adds a symbol or replaces it. -/
def register (loader : TableLoader) (name : String) (address : Address) : TableLoader :=
  { loader with symbols := (name, address) :: loader.symbols }

/-- Replaces the main function that later loads see. -/
def putMain (loader : TableLoader) (address : Address) : TableLoader :=
  loader.register EntryPoint.mainSymbol address

/-- A table with a main function. -/
def ofMain (address : Address) : TableLoader := empty.putMain address

/-- A table with an initializer and an update function. -/
def ofLegacy (init update : Address) : TableLoader :=
  (empty.register EntryPoint.initSymbol init).register EntryPoint.updateSymbol update

/-- The module that a table makes of a path. -/
def moduleOf (symbols : SymbolTable) (path : Path) : Module :=
  { path
    find := fun name =>
      match symbols.lookup name with
      | some address => .ok address
      | none => .error (.missingSymbol name "not registered") }

/-- Loads a module. -/
def load (loader : TableLoader) (path : Path) : Module × TableLoader :=
  (moduleOf loader.symbols path, { loader with loads := loader.loads + 1 })

end TableLoader

end LiveReload
