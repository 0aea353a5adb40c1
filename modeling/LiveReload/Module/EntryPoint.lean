/-
**Modules and their entry points.**

A module is what a loader makes of an artifact: it answers symbols with addresses. It is run by one
of two contracts, a main function that is given the whole context, or an initializer and an update
function that share one word of state.

* `EntryPoint.resolve`: the entry point of a module; a main function takes precedence, and half of
  the second contract is none;
* `exitCode`: what the result of an update function asks for;
* `exitStatus`: what is left of an exit code outside the process.
-/
import LiveReload.Module.Error

namespace LiveReload

/-- The address of a symbol, which is never null. -/
structure Address where
  value : Nat
  value_ne_zero : value ≠ 0
deriving DecidableEq, Repr

/-- A word as the address of a symbol. -/
def Address.of? (value : Nat) : Option Address :=
  if h : value ≠ 0 then some ⟨value, h⟩ else none

/-- A loaded module. -/
structure Module where
  path : Path
  /-- The address of a symbol. -/
  find : String → Except LoadError Address

/-- How a module is run. -/
inductive EntryPoint
  /-- Called in every tick with the context. -/
  | main (address : Address)
  /-- Initialized once, then updated in every tick. -/
  | legacy (init update : Address)
deriving DecidableEq, Repr

namespace EntryPoint

/-- The symbol of the function that is called in every tick. -/
def mainSymbol : String := "ember_main"

/-- The symbol of the initializer. -/
def initSymbol : String := "ember_init"

/-- The symbol of the update function. -/
def updateSymbol : String := "ember_update"

/-- The entry point of a module. -/
def resolve (module : Module) : Except LoadError EntryPoint :=
  match module.find mainSymbol with
  | .ok address => .ok (.main address)
  | .error _ =>
    match module.find initSymbol, module.find updateSymbol with
    | .ok init, .ok update => .ok (.legacy init update)
    | _, _ => .error (.noEntryPoint module.path)

end EntryPoint

/-- The largest exit code. -/
def greatestExitCode : Nat := 2147483647

/-- The exit code that the result of an update function asks for: zero asks for none, any other
result for the code one below it. -/
def exitCode (result : UInt32) : Option Int :=
  if result = 0 then none else some ((min (result.toNat - 1) greatestExitCode : Nat) : Int)

/-- The status of a process that ended with a code: the lowest byte. -/
def exitStatus (code : Int) : Nat := (code % 256).toNat

end LiveReload
