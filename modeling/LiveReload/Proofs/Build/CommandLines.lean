/-
**Configured lists are spliced into command lines.**

The flags of a build are told from the job, the edition and the standard of the language. The
configured collections are put between them, each in one stretch and in its own order, at places
that do not depend on what is put there; then come the extra flags, the output and the input.
External libraries come in the order of their names, whatever order they were configured in.

* `Externs.mem_entries_iff`, `Externs.find?_ofList`: a table has one entry for each name, the one
  that was put last;
* `CommandLine.spliced`: what the collections add;
* `Toolchain.commandLine_splices`: the command line around them, which is the one without them.
-/
import LiveReload.Build.CommandLine
import LiveReload.Proofs.Text.ByteOrder
import Mathlib.Data.List.Induction

namespace LiveReload

/-! ### Tables of external libraries -/

namespace Externs

/-- In a list of entries whose names ascend every entry answers to its name. -/
theorem mem_iff_lookup {entries : List (String × Path)}
    (ascending : entries.Pairwise fun a b => a.1 < b.1) (name : String) (path : Path) :
    (name, path) ∈ entries ↔ entries.lookup name = some path := by
  induction entries with
  | nil => simp
  | cons first rest ih =>
    obtain ⟨key, held⟩ := first
    obtain ⟨below, tail⟩ := List.pairwise_cons.mp ascending
    rw [List.mem_cons, Prod.mk.injEq, ih tail, Entries.lookup_cons_eq]
    by_cases same : name = key
    · subst same
      have once : rest.lookup name ≠ some path := fun found =>
        String.lt_irrefl name (below (name, path) ((ih tail).mpr found))
      simp [once, eq_comm]
    · simp [same]

theorem mem_entries_iff (externs : Externs) (name : String) (path : Path) :
    (name, path) ∈ externs.entries ↔ externs.find? name = some path :=
  mem_iff_lookup externs.ascending name path

/-- What was put last counts. -/
theorem find?_ofList (inserted : List (String × Path)) (name : String) :
    (ofList inserted).find? name = inserted.reverse.lookup name := by
  induction inserted using List.reverseRecOn with
  | nil => rfl
  | append_singleton before last ih =>
    have added : ofList (before ++ [last]) = (ofList before).put last.1 last.2 := by
      simp [ofList]
    rw [added, find?_put, ih, List.reverse_append, List.reverse_singleton, List.singleton_append,
      Entries.lookup_cons_eq]

/-- The names of a table ascend byte by byte. -/
theorem entries_bytes (externs : Externs) :
    externs.entries.Pairwise fun a b => Utf8.encode a.1 < Utf8.encode b.1 :=
  externs.ascending.imp Utf8.encode_lt

end Externs

/-! ### Command lines -/

namespace CommandLine

/-- What the configured collections add to a command line. -/
def spliced (externs : List (String × Path)) (libraryDirs includeDirs : List Path) :
    Toolchain → List String
  | .rustc =>
    (libraryDirs.flatMap fun dir => ["-L", "dependency=" ++ dir.text]) ++
      externs.flatMap fun entry => ["--extern", entry.1 ++ "=" ++ entry.2.text]
  | .clang => includeDirs.flatMap fun dir => ["-I" ++ dir.text, "--embed-dir=" ++ dir.text]

/-- The flags before what the collections add. -/
def front (job : CompileJob) (edition : String) : Toolchain → List String
  | .rustc => crateFlags job edition
  | .clang => warnings

/-- The flags between what the collections add and the extra flags. -/
def back (job : CompileJob) (standard : String) : Toolchain → List String
  | .rustc => []
  | .clang => unitFlags job standard

/-- Every command line has the same parts in the same order. -/
theorem commandLine_eq (toolchain : Toolchain) (job : CompileJob) (config : ToolchainSettings) :
    toolchain.commandLine job config =
      front job config.edition toolchain ++
        spliced config.externs.entries config.libraryDirs config.includeDirs toolchain ++
        back job config.cStandard toolchain ++ config.extraFlags ++ ending job := by
  cases toolchain with
  | rustc =>
    have groups :
        config.libraryDirs.flatMap libraryDir ++ config.externs.entries.flatMap externFlag =
          spliced config.externs.entries config.libraryDirs config.includeDirs .rustc := rfl
    rw [Toolchain.commandLine, rustcArguments, front, back, ← groups, List.append_nil,
      List.append_assoc (crateFlags job config.edition)]
  | clang => rfl

theorem spliced_nothing (toolchain : Toolchain) : spliced [] [] [] toolchain = [] := by
  cases toolchain <;> rfl

end CommandLine

/-- **Command lines splice the configured lists.** Two stretches of flags, told without the lists,
make up the command line if all lists are empty. For any lists the same stretches are there: what
the collections add stands between them, the extra flags stand behind them, and the output and the
input end the line. The external libraries are in ascending order of the bytes of their names, each
name once and with the path that was put last. -/
theorem Toolchain.commandLine_splices (toolchain : Toolchain) (job : CompileJob)
    (config : ToolchainSettings) :
    let ending := ["-o", job.output.text, job.input.text]
    ∃ front back : List String,
      toolchain.commandLine job
          { config with
            externs := .empty, libraryDirs := [], includeDirs := [], extraFlags := [] } =
        front ++ back ++ ending ∧
      ∀ (externs : Externs) (libraryDirs includeDirs : List Path) (extraFlags : List String),
        toolchain.commandLine job
            { config with externs, libraryDirs, includeDirs, extraFlags } =
          front ++ CommandLine.spliced externs.entries libraryDirs includeDirs toolchain ++ back ++
            extraFlags ++ ending ∧
        (externs.entries.Pairwise fun a b => Utf8.encode a.1 < Utf8.encode b.1) ∧
        ∀ inserted, externs = .ofList inserted → ∀ name path,
          (name, path) ∈ externs.entries ↔ inserted.reverse.lookup name = some path := by
  intro ending
  refine ⟨CommandLine.front job config.edition toolchain,
    CommandLine.back job config.cStandard toolchain, ?_, ?_⟩
  · rw [CommandLine.commandLine_eq]
    dsimp only [Externs.empty]
    rw [CommandLine.spliced_nothing, List.append_nil, List.append_nil]
    rfl
  · intro externs libraryDirs includeDirs extraFlags
    refine ⟨CommandLine.commandLine_eq toolchain job _, externs.entries_bytes, ?_⟩
    rintro inserted rfl name path
    rw [Externs.mem_entries_iff, Externs.find?_ofList]

/-- Libraries that were configured out of order, one of them twice. -/
example :
    Toolchain.rustc.commandLine ⟨⟨"app.rs"⟩, ⟨"out"⟩, .wasm, true, true⟩
        { ToolchainSettings.standard with
          externs := .ofList [("log", ⟨"l.rlib"⟩), ("core", ⟨"c.rlib"⟩), ("log", ⟨"m.rlib"⟩)]
          libraryDirs := [⟨"deps"⟩], extraFlags := ["-v"] } =
      ["-D", "warnings", "--edition=2021", "--crate-name", "app", "--crate-type", "cdylib",
        "--target", "wasm32-unknown-unknown", "-C", "opt-level=3", "-C", "strip=symbols",
        "-L", "dependency=deps", "--extern", "core=c.rlib", "--extern", "log=m.rlib", "-v",
        "-o", "out", "app.rs"] := by
  decide

end LiveReload
