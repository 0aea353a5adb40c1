/-
**Settings from a document.**

A document gives the settings it names; the others keep their standard values. Names that stand for
no setting are passed over, but a setting with a value of the wrong kind makes the whole document
unusable.

* `Settings.ofTable?`: the settings of a document.
-/
import LiveReload.Power
import LiveReload.Settings.Basic
import LiveReload.Toml.Document

namespace LiveReload

open Toml

namespace Settings

/-- The name under which a moment holds its text when it is read as a table. -/
def momentField : String := "$__toml_private_datetime"

/-- A text. -/
def text? : Value → Option String
  | .text text => some text
  | _ => none

/-- A path. -/
def path? (value : Value) : Option Path := (text? value).map Path.mk

/-- A truth value. -/
def flag? : Value → Option Bool
  | .bool flag => some flag
  | _ => none

/-- A number from zero up to a limit that it does not reach. -/
def number? (limit : Nat) : Value → Option Nat
  | .integer (some value) => if 0 ≤ value && value < limit then some value.toNat else none
  | _ => none

/-- A word of 64 bits. -/
def word? : Value → Option Nat := number? (2 ^ 64)

/-- The items of an array. -/
def items? : Value → Option (List Value)
  | .array items => some items
  | .tables items => some items
  | _ => none

/-- Items of one kind. -/
def list? {α : Type} (read : Value → Option α) (value : Value) : Option (List α) :=
  (items? value).bind fun items => items.mapM read

/-- The fields of a table. -/
def fields? : Value → Option (List (String × Value))
  | .table _ entries => some entries
  | .moment text => some [(momentField, .text text)]
  | _ => none

/-- The values under other names than these can be read, whatever they are. -/
def othersHeld (names : List String) (fields : List (String × Value)) : Bool :=
  allFieldsHeld (fields.filter fun field => !names.contains field.1)

/-- The fields of a section: a table, or an array of the values in the order of their names, where
items without a name are not looked at. -/
def section? (names : List String) (value : Value) : Option (List (String × Value)) :=
  ((fields? value).filter (othersHeld names)).or ((items? value).map names.zip)

/-- A setting by name, or its standard value if the name is not there. -/
def setting {α : Type} (fields : List (String × Value)) (name : String) (standard : α)
    (read : Value → Option α) : Option α :=
  match fields.lookup name with
  | none => some standard
  | some value => read value

/-- The names of the watch settings in their order. -/
def watchNames : List String :=
  ["dirs", "poll_timeout_ms", "debounce_ms", "ignore_names", "ignore_extensions", "ignore_dirs",
    "max_consecutive_errors"]

/-- The watch settings. -/
def watch? (value : Value) : Option WatchSettings := do
  let fields ← section? watchNames value
  let base := WatchSettings.standard
  some
    { dirs := ← setting fields "dirs" base.dirs (list? path?)
      pollTimeoutMs := ← setting fields "poll_timeout_ms" base.pollTimeoutMs word?
      debounceMs := ← setting fields "debounce_ms" base.debounceMs word?
      ignoreNames := ← setting fields "ignore_names" base.ignoreNames (list? text?)
      ignoreExtensions := ← setting fields "ignore_extensions" base.ignoreExtensions (list? text?)
      ignoreDirs := ← setting fields "ignore_dirs" base.ignoreDirs (list? path?)
      maxConsecutiveErrors :=
        ← setting fields "max_consecutive_errors" base.maxConsecutiveErrors (number? (2 ^ 32)) }

/-- The names of the run settings in their order. -/
def runNames : List String := ["default_wake_ms", "seed"]

/-- The run settings. -/
def run? (value : Value) : Option RunSettings := do
  let fields ← section? runNames value
  let base := RunSettings.standard
  some
    { defaultWakeMs := ← setting fields "default_wake_ms" base.defaultWakeMs word?
      seed := ← setting fields "seed" base.seed fun value => (word? value).map some }

/-- The toolchain of a name. -/
def toolchainNamed? (name : String) : Option Toolchain :=
  [Toolchain.rustc, .clang].find? fun toolchain => toolchain.name = name

/-- A toolchain: its name, or a table whose one name stands for an empty table. -/
def toolchain? : Value → Option Toolchain
  | .text name => toolchainNamed? name
  | .table _ [(name, .table _ [])] => toolchainNamed? name
  | _ => none

/-- External libraries by name. -/
def externs? (value : Value) : Option Externs := do
  let entries ← (← fields? value).mapM fun (name, value) =>
    (path? value).map fun path => (name, path)
  some (.ofList entries)

mutual

/-- No integer in the value needs more than a word, and all numbers in it are held. -/
def fitsWords : Value → Bool
  | .integer value => value.any fun value => -(2 ^ 63) ≤ value && value < 2 ^ 64
  | .float held => held
  | .array items => allFitWords items
  | .tables items => allFitWords items
  | .table _ entries => fieldsFitWords entries
  | _ => true

/-- No integer in the items needs more than a word. -/
def allFitWords : List Value → Bool
  | [] => true
  | item :: rest => fitsWords item && allFitWords rest

/-- No integer in the fields needs more than a word. -/
def fieldsFitWords : List (String × Value) → Bool
  | [] => true
  | (_, value) :: rest => fitsWords value && fieldsFitWords rest

end

/-- The toolchain settings, which stand among the build settings. -/
def toolchainSettings? (fields : List (String × Value)) : Option ToolchainSettings := do
  let base := ToolchainSettings.standard
  some
    { forced :=
        ← setting fields "toolchain" base.forced fun value => (toolchain? value).map some
      rustc := ← setting fields "rustc" base.rustc text?
      clang := ← setting fields "clang" base.clang text?
      edition := ← setting fields "edition" base.edition text?
      cStandard := ← setting fields "c_standard" base.cStandard text?
      externs := ← setting fields "externs" base.externs externs?
      libraryDirs := ← setting fields "library_dirs" base.libraryDirs (list? path?)
      includeDirs := ← setting fields "include_dirs" base.includeDirs (list? path?)
      extraFlags := ← setting fields "extra_flags" base.extraFlags (list? text?) }

/-- The build settings. -/
def build? (value : Value) : Option BuildSettings := do
  let fields ← fields? value
  let base := BuildSettings.standard
  if fieldsFitWords fields then
    some
      { outDir := ← setting fields "out_dir" base.outDir path?
        artifactStem := ← setting fields "artifact_stem" base.artifactStem text?
        retain := ← setting fields "retain_artifacts" base.retain flag?
        toolchain := ← toolchainSettings? fields }
  else none

/-- The names of the sections. -/
def sectionNames : List String := ["watch", "build", "runtime"]

/-- The settings of a document. -/
def ofTable? (table : Table) : Option Settings := do
  let base := standard
  if othersHeld sectionNames table.entries then
    some
      { watch := ← setting table.entries "watch" base.watch watch?
        build := ← setting table.entries "build" base.build build?
        run := ← setting table.entries "runtime" base.run run? }
  else none

/-- The settings that a text writes. -/
def ofText? (text : String) : Option Settings := (document? text).bind ofTable?

end Settings

end LiveReload
