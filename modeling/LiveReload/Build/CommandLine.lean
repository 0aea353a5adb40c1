/-
**Command lines of compilers.**

A command line is made of groups: flags that depend on the build alone, then one group for each
configured list, then the extra flags, and at the end the output and the input.

* `crateName`: a name that every compiler of crates accepts, made from the stem of the input;
* `rustcArguments`, `clangArguments`: the groups in the order of each compiler;
* `commandLine`: the arguments for a toolchain.
-/
import LiveReload.Build.Toolchain

namespace LiveReload

namespace CommandLine

/-- A letter or digit of ASCII. -/
def isNameChar (c : Char) : Bool := c.isAlphanum

/-- A stem with all but letters and digits of ASCII replaced. -/
def nameChars (stem : String) : List Char :=
  stem.toList.map fun c => if isNameChar c then c else '_'

/-- A stem as the name of a crate, which is not empty and starts with no digit. -/
def crateNameOf (stem : String) : String :=
  match nameChars stem with
  | [] => "_"
  | first :: rest => String.ofList (if first.isDigit then '_' :: first :: rest else first :: rest)

end CommandLine

/-- The name of the crate that an input is compiled to, by what is shown for the bytes of its stem. -/
def RawPath.crateName (input : RawPath) : String :=
  CommandLine.crateNameOf (Utf8.decodeLossy (input.stem.getD []))

namespace CommandLine

/-- The name of the crate that an input is compiled to. -/
def crateName (input : Path) : String := (RawPath.ofPath input).crateName

/-- Release builds run on every machine of a fixed level, others only need the machine at hand. -/
def cpuLevel (release : Bool) : String :=
  if release then "x86-64-v3" else "native"

/-- The target flags of a crate. -/
def crateTarget : Platform → List String
  | .native => []
  | .windows => ["--target", "x86_64-pc-windows-gnu"]
  | .wasm => ["--target", "wasm32-unknown-unknown"]

/-- The flags of a crate that depend on the build alone. -/
def crateFlags (job : CompileJob) (edition : String) : List String :=
  ["-D", "warnings", "--edition=" ++ edition, "--crate-name", crateName job.input,
    "--crate-type", if job.loadable || job.platform = .wasm then "cdylib" else "bin"] ++
  (if job.platform.knowsCpuLevel then ["-C", "target-cpu=" ++ cpuLevel job.release] else []) ++
  crateTarget job.platform ++
  (if job.release then ["-C", "opt-level=3", "-C", "strip=symbols"]
    else ["-C", "opt-level=0", "-g"])

/-- One directory of libraries. -/
def libraryDir (dir : Path) : List String := ["-L", "dependency=" ++ dir.text]

/-- One external library. -/
def externFlag (entry : String × Path) : List String :=
  ["--extern", entry.1 ++ "=" ++ entry.2.text]

/-- The output and the input, which end every command line. -/
def ending (job : CompileJob) : List String :=
  ["-o", job.output.text, job.input.text]

/-- The command line of a crate. -/
def rustcArguments (job : CompileJob) (config : ToolchainSettings) : List String :=
  crateFlags job config.edition ++
  config.libraryDirs.flatMap libraryDir ++
  config.externs.entries.flatMap externFlag ++
  config.extraFlags ++
  ending job

/-- The warnings of a translation unit. -/
def warnings : List String :=
  ["-Wall", "-Werror", "-Wno-unused-function", "-Wno-unused-variable",
    "-Wno-unused-but-set-variable", "-Wno-format"]

/-- One directory of headers and embedded files. -/
def includeDir (dir : Path) : List String :=
  ["-I" ++ dir.text, "--embed-dir=" ++ dir.text]

/-- The target flags of a translation unit. -/
def unitTarget : Platform → List String
  | .native => []
  | .windows => ["-target", "x86_64-unknown-windows-gnu"]
  | .wasm =>
    ["-target", "wasm32", "--no-standard-libraries", "-Wl,--no-entry", "-Wl,--export-all",
      "-fno-builtin", "-msimd128"]

/-- The optimization flags of a translation unit. -/
def unitOptimization (job : CompileJob) : List String :=
  if job.release then
    "-O3" :: (if job.platform = .native then ["-Xlinker", "--strip-all"] else [])
  else ["-O1", "-g"]

/-- The flags of a translation unit that depend on the build alone. -/
def unitFlags (job : CompileJob) (standard : String) : List String :=
  ["-std=" ++ standard] ++
  (if job.platform.knowsCpuLevel then ["-march=" ++ cpuLevel job.release] else []) ++
  unitTarget job.platform ++
  unitOptimization job ++
  (if job.loadable then ["-shared", "-fPIC"] else [])

/-- The command line of a translation unit. -/
def clangArguments (job : CompileJob) (config : ToolchainSettings) : List String :=
  warnings ++
  config.includeDirs.flatMap includeDir ++
  unitFlags job config.cStandard ++
  config.extraFlags ++
  ending job

end CommandLine

end LiveReload

namespace LiveReload

/-- The arguments that a toolchain is run with. -/
def Toolchain.commandLine (job : CompileJob) (config : ToolchainSettings) :
    Toolchain → List String
  | rustc => CommandLine.rustcArguments job config
  | clang => CommandLine.clangArguments job config

end LiveReload
