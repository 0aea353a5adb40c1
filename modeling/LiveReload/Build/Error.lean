/-
**Why a build fails.**
-/
import LiveReload.Fault.Basic
import LiveReload.Path

namespace LiveReload

/-- Why a compiler produced no artifact. -/
inductive BuildError
  /-- The compiler could not be started. -/
  | spawn (program : String) (fault : Fault)
  /-- The compiler ended without success. -/
  | failed (program status diagnostics : String)
  /-- The directory of the artifact could not be made. -/
  | outputDir (dir : Path) (fault : Fault)
  /-- No toolchain compiles such an input. -/
  | unknownToolchain (input : Path)
deriving DecidableEq, Repr

namespace BuildError

/-- A build error in words. -/
def message : BuildError → String
  | spawn program fault => s!"failed to launch '{program}': {fault.message}"
  | failed program status _ => s!"'{program}' failed ({status})"
  | outputDir dir fault =>
    s!"failed to prepare output directory '{dir.text}': {fault.message}"
  | unknownToolchain input => s!"no toolchain handles input '{input.text}'"

/-- The fault behind a build error. -/
def cause : BuildError → Option Fault
  | spawn _ fault => some fault
  | outputDir _ fault => some fault
  | _ => none

end BuildError

end LiveReload
