/-
**Why a module cannot be loaded.**
-/
import LiveReload.Path

namespace LiveReload

/-- Why an artifact gives no module, or a module no entry point. -/
inductive LoadError
  /-- The artifact could not be mapped. -/
  | opening (path : Path) (reason : String)
  /-- The module does not export a symbol. -/
  | missingSymbol (symbol reason : String)
  /-- The module exports neither contract completely. -/
  | noEntryPoint (path : Path)
deriving DecidableEq, Repr

/-- A load error in words. -/
def LoadError.message : LoadError → String
  | opening path reason => s!"failed to load '{path.text}': {reason}"
  | missingSymbol symbol reason => s!"symbol '{symbol}' not found: {reason}"
  | noEntryPoint path => s!"'{path.text}' exports no entry point"

end LiveReload
