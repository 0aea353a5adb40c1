/-
**Failing modules.**

A failure inside a module is caught where the host called it. What the module threw becomes one
record, and the host ends with a code of its own.

* `Payload.message`: the words of what was thrown;
* `ModuleFailure.settle`: what the host does with the context of a failing main function.
-/
import LiveReload.Context.Basic

namespace LiveReload

/-- What a failing module throws. -/
inductive Payload
  /-- A text of the program. -/
  | literal (text : String)
  /-- A text made while it ran. -/
  | owned (text : String)
  /-- A text behind a pointer of its own, which is not recognized. -/
  | boxed (text : String)
  /-- No text at all. -/
  | number (value : Nat)
deriving DecidableEq, Repr

/-- The words of a payload. -/
def Payload.message : Payload → String
  | literal text => text
  | owned text => text
  | _ => "non-string panic payload"

namespace ModuleFailure

/-- The code that the host ends with. -/
def exitCode : Nat := 1

/-- The record of a failing module. -/
def record (crash : Crash) : Record :=
  ⟨.error, "ember_core::abi", s!"Fatal: module panicked: {crash.message}"⟩

/-- The record of module output that could not be passed on, spoken by `source`. -/
def flushRecord (source : String) (fault : Fault) : Record :=
  ⟨.warn, source, s!"Failed to flush module output: {fault.message}"⟩

/-- Passes the output of a failing main function on, then records the failure. -/
def settle (source : String) (crash : Crash) (context : Context) : List Record × Context :=
  match context.output.flush with
  | (none, output) => ([record crash], { context with output })
  | (some fault, output) => ([flushRecord source fault, record crash], { context with output })

end ModuleFailure

end LiveReload
