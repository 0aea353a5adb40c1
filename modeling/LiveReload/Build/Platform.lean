/-
**Target platforms.**

* `Platform.ofName`: the platform that a name stands for, in any case of letters;
* `Platform.artifactAt`: where one of several builds of the same sources goes.
-/
import LiveReload.Path

namespace LiveReload

/-- What a build is for. -/
inductive Platform
  | native
  | windows
  | wasm
deriving DecidableEq, Repr

/-- A name that stands for no platform. -/
structure PlatformError where
  name : String
deriving DecidableEq, Repr

/-- A platform error in words. -/
def PlatformError.message (error : PlatformError) : String :=
  s!"unknown platform '{error.name}' (expected native, linux, windows or wasm)"

namespace Platform

/-- The names of platforms, in small letters. -/
def names : List (String × Platform) :=
  [("native", native), ("linux", native), ("windows", windows), ("wasm", wasm)]

/-- The platform that a name stands for. -/
def ofName (name : String) : Except PlatformError Platform :=
  match names.lookup (name.map Char.toLower) with
  | some platform => .ok platform
  | none => .error ⟨name⟩

/-- The name that a platform is shown by. -/
def name : Platform → String
  | native => "native"
  | windows => "windows"
  | wasm => "wasm"

/-- Processors of the platform come in feature levels. -/
def knowsCpuLevel : Platform → Bool
  | wasm => false
  | _ => true

/-- The extension that tells the artifact of a platform from the native one. -/
def artifactExtension : Platform → Bool → Option String
  | native, _ => none
  | windows, true => some "dll"
  | windows, false => some "exe"
  | wasm, _ => some "wasm"

/-- The artifact of a platform when several are built to the same `base`. -/
def artifactAt (platform : Platform) (base : Path) (loadable : Bool) : Path :=
  match platform.artifactExtension loadable with
  | none => base
  | some extension => base.withExtension extension

end Platform

end LiveReload
