/-
**Toolchains.**

A toolchain is a compiler family; its configuration holds the programs and the flags that do not
depend on a single build.

* `ToolchainSettings.toolchainOf`: the toolchain for an input, by its extension unless one is
  forced.
-/
import LiveReload.Build.Error
import LiveReload.Build.Externs
import LiveReload.Build.Platform
import LiveReload.RawPath

namespace LiveReload

/-- A compiler family. -/
inductive Toolchain
  | rustc
  | clang
deriving DecidableEq, Repr

/-- The name of a compiler family. -/
def Toolchain.name : Toolchain → String
  | rustc => "rustc"
  | clang => "clang"

/-- Compilers and the flags that every build gets. -/
structure ToolchainSettings where
  /-- Takes precedence over the extension of the input. -/
  forced : Option Toolchain
  rustc : String
  clang : String
  edition : String
  cStandard : String
  externs : Externs
  libraryDirs : List Path
  includeDirs : List Path
  /-- Flags that come right before the output. -/
  extraFlags : List String

/-- One run of a compiler. -/
structure CompileJob where
  input : Path
  output : Path
  platform : Platform
  release : Bool
  /-- A library that a running program can load, no program. -/
  loadable : Bool
deriving DecidableEq, Repr

/-- A native loadable build without optimization. -/
def CompileJob.forModule (input output : Path) : CompileJob :=
  { input, output, platform := .native, release := false, loadable := true }

namespace ToolchainSettings

/-- The configuration when nothing is configured. -/
def standard : ToolchainSettings :=
  { forced := none, rustc := "rustc", clang := "clang", edition := "2021", cStandard := "c23",
    externs := .empty, libraryDirs := [], includeDirs := [⟨"src"⟩], extraFlags := [] }

/-- The toolchain for an input. -/
def toolchainOf (config : ToolchainSettings) (input : Path) : Except BuildError Toolchain :=
  match config.forced with
  | some toolchain => .ok toolchain
  | none =>
    match (RawPath.ofPath input).extensionText? with
    | some "rs" => .ok .rustc
    | some "c" => .ok .clang
    | _ => .error (.unknownToolchain input)

/-- The program that a toolchain is run by. -/
def program (config : ToolchainSettings) : Toolchain → String
  | .rustc => config.rustc
  | .clang => config.clang

end ToolchainSettings

end LiveReload
