/-
**What a failed build leaves behind.**

A build whose compiler ended without success clears its output, and a build that fails before its
compiler ran clears nothing. So a stale artifact outlives every failure but one, and the only file
that a build can lose beside its output is one that is reached through what the output names.

* `Builder.SparesInput`: the compiler of a build leaves its input alone (`halted_reads`);
* `Launcher.RefusesIdly`: a program that could not be started has changed nothing (`halted_grown`);
* `Builder.compile_files`: the files after a build;
* `Builder.compile_keeps_input`: when the input of a build can still be read;
* `Builder.compile_failed_output`: what stands at the output of a build that failed.
-/
import LiveReload.Proofs.Build.Calls
import LiveReload.Proofs.Build.Removal

namespace LiveReload

/-- A program that could not be started has changed nothing. -/
def Launcher.RefusesIdly (launcher : Launcher) : Prop :=
  ∀ calls program arguments files fault after,
    launcher calls program arguments files = (.error fault, after) → after = files

theorem Toolbox.refusesIdly (tools : Toolbox) : (launcher tools).RefusesIdly := by
  intro calls program arguments files fault after refused
  unfold launcher at refused
  split at refused
  · cases refused
    rfl
  · split at refused
    · cases refused
      rfl
    · cases refused

namespace Builder

variable {config : ToolchainSettings} {job : CompileJob} {machine : Machine} {content : Content}

/-- The compiler that a build runs, if it can, leaves what can be read at the input. -/
def SparesInput (config : ToolchainSettings) (job : CompileJob) (machine : Machine) : Prop :=
  ∀ toolchain content, config.toolchainOf job.input = .ok toolchain →
    (prepare job machine).2.files.read job.input = .ok content →
      ((prepare job machine).2.run (config.program toolchain)
        (toolchain.commandLine job config)).2.files.read job.input = .ok content

theorem endOf_files (ran : Except Fault Finished × Machine) : (endOf ran).2 = ran.2.files := by
  obtain ⟨answer, after⟩ := ran
  cases answer <;> rfl

theorem endOf_unstarted (idle : machine.launcher.RefusesIdly) {program : String}
    {arguments : List String} (none : (endOf (machine.run program arguments)).1 = none) :
    (endOf (machine.run program arguments)).2 = machine.files := by
  unfold Machine.run at none ⊢
  split at none
  · rw [if_pos ‹_›]
    rfl
  · rw [if_neg ‹_›]
    cases launched : machine.launcher machine.calls program arguments machine.files with
    | mk answer after =>
      rw [launched] at none
      cases answer with
      | error fault => exact idle _ _ _ _ _ _ launched
      | ok finished => cases none

/-- Up to the end of its compiler, a build leaves its input. -/
theorem halted_reads (spares : SparesInput config job machine)
    (readable : machine.files.read job.input = .ok content) :
    (halted config job machine).2.read job.input = .ok content := by
  have grown := (prepare_left job machine).1.read readable
  unfold halted
  cases known : config.toolchainOf job.input with
  | error error => exact readable
  | ok toolchain =>
    have ran := spares toolchain content known grown
    dsimp only
    cases prepared : prepare job machine with
    | mk fault ready =>
      rw [prepared] at grown ran
      cases fault with
      | some error => exact grown
      | none =>
        rw [endOf_files]
        exact ran

/-- Before its compiler runs, a build has only made directories. -/
theorem halted_grown (idle : machine.launcher.RefusesIdly)
    (unstarted : (halted config job machine).1 = none) :
    machine.files.Growth (halted config job machine).2 := by
  obtain ⟨growth, launcher⟩ := prepare_left job machine
  unfold halted at unstarted ⊢
  cases known : config.toolchainOf job.input with
  | error error => exact .refl _
  | ok toolchain =>
    rw [known] at unstarted
    dsimp only at unstarted ⊢
    cases prepared : prepare job machine with
    | mk fault ready =>
      rw [prepared] at growth launcher unstarted
      cases fault with
      | some error => exact growth
      | none =>
        rw [← launcher] at idle
        rw [endOf_unstarted idle unstarted]
        exact growth

/-- The files after a build: its output was cleared if its compiler failed. -/
theorem compile_files (config : ToolchainSettings) (job : CompileJob) (machine : Machine) :
    (∃ error, (compile config job machine).1 = .error error ∧ error.isFailed = true ∧
      (compile config job machine).2.files = (halted config job machine).2.cleared job.output) ∨
    ((∀ error, (compile config job machine).1 = .error error →
        error.isFailed = false ∧ (halted config job machine).1 = none) ∧
      (compile config job machine).2.files = (halted config job machine).2) := by
  have ends := compile_halts config job machine
  generalize compile config job machine = compiled at ends ⊢
  generalize halted config job machine = end_ at ends ⊢
  cases ends with
  | unstarted error after early =>
    refine .inr ⟨?_, rfl⟩
    rintro _ ⟨⟩
    exact ⟨early, rfl⟩
  | failed finished files error after late _ left => exact .inl ⟨error, rfl, late, left⟩
  | succeeded finished after => exact .inr ⟨nofun, rfl⟩

/-- A machine with a source, an artifact that is out of date, and tools. -/
def desk (tools : Toolbox) : Machine :=
  .new ⟨.dir [("app.rs", .file (.ofText "fn main() {}") 0), ("app", .file (.ofText "old") 0)] 0, [],
    1, []⟩ (Toolbox.launcher tools)

/-- A compiler that fails and writes nothing. -/
def broken : Toolbox := [("rustc", ⟨1, [], [], none, none, [], []⟩)]

/-- A debug build of a program. -/
def program (input output : Path) : CompileJob :=
  { input, output, platform := .native, release := false, loadable := false }

theorem desk_source (tools : Toolbox) :
    (desk tools).files.read ⟨"app.rs"⟩ = .ok (.ofText "fn main() {}") :=
  FileSystem.read_name (by decide) ⟨by decide, by decide⟩ (by decide) (by decide) rfl rfl

theorem desk_artifact (tools : Toolbox) :
    (desk tools).files.read ⟨"app"⟩ = .ok (.ofText "old") :=
  FileSystem.read_name (by decide) ⟨by decide, by decide⟩ (by decide) (by decide) rfl rfl

theorem broken_spares {output : Path} (which : output = ⟨"app"⟩ ∨ output = ⟨"app.rs"⟩) :
    SparesInput .standard (program ⟨"app.rs"⟩ output) (desk broken) := by
  intro toolchain content known readable
  have rust : ToolchainSettings.standard.toolchainOf ⟨"app.rs"⟩ = .ok .rustc := by decide
  obtain rfl := Except.ok.inj (rust.symm.trans known)
  obtain rfl | rfl := which <;> exact readable

/-! ### The input -/

/-- The compiler of a build fails, and what the build then removes at its output takes the input
away. -/
def LosesInput (config : ToolchainSettings) (job : CompileJob) (machine : Machine) : Prop :=
  (∃ error, (compile config job machine).1 = .error error ∧ error.isFailed = true) ∧
    (halted config job machine).2.Severs job.output job.input

/-- A build leaves its input as it was, unless it loses it: then nothing can be read there, since
the output led to the input itself or to a link on the way to it. -/
theorem compile_keeps_input (spares : SparesInput config job machine)
    (readable : machine.files.read job.input = .ok content) :
    (¬ LosesInput config job machine →
      (compile config job machine).2.files.read job.input = .ok content) ∧
    (LosesInput config job machine →
      (∀ other, (compile config job machine).2.files.read job.input ≠ .ok other) ∧
      ∃ spot, (halted config job machine).2.Removes job.output spot ∧
        ((halted config job machine).2.land true job.input = .ok (.entry spot) ∨
          ∃ target modified,
            (halted config job machine).2.root.seen spot = some (.link target modified))) := by
  have halted := halted_reads spares readable
  obtain ⟨error, failed, late, left⟩ | ⟨early, left⟩ := compile_files config job machine
  · rw [left]
    constructor
    · intro kept
      refine FileSystem.read_cleared (fun severs => kept ?_) halted
      exact ⟨⟨error, failed, late⟩, severs⟩
    · rintro ⟨_, severs⟩
      exact ⟨severs.not_read, severs.file_or_link halted⟩
  · rw [left]
    refine ⟨fun _ => halted, ?_⟩
    rintro ⟨⟨error, failed, late⟩, _⟩
    rw [(early error failed).1] at late
    cases late

/-- The source outlives a build that fails and then removes the old artifact beside it. -/
theorem compile_keeps_input_beside :
    SparesInput .standard (program ⟨"app.rs"⟩ ⟨"app"⟩) (desk broken) ∧
      (desk broken).files.read ⟨"app.rs"⟩ = .ok (.ofText "fn main() {}") ∧
      (compile .standard (program ⟨"app.rs"⟩ ⟨"app"⟩) (desk broken)).2.files.read ⟨"app.rs"⟩ =
        .ok (.ofText "fn main() {}") := by
  have spares := broken_spares (.inl rfl)
  have source := desk_source broken
  have apart : ¬ (desk broken).files.Severs ⟨"app"⟩ ⟨"app.rs"⟩ :=
    FileSystem.not_severs_name (by decide) (by decide) (by decide) (by decide) (by decide) nofun
  exact ⟨spares, source, (compile_keeps_input spares source).1 fun lost => apart lost.2⟩

/-- A build whose output is its input removes it when its compiler fails. -/
theorem compile_loses_input :
    SparesInput .standard (program ⟨"app.rs"⟩ ⟨"app.rs"⟩) (desk broken) ∧
      (desk broken).files.read ⟨"app.rs"⟩ = .ok (.ofText "fn main() {}") ∧
      ∀ content,
        (compile .standard (program ⟨"app.rs"⟩ ⟨"app.rs"⟩) (desk broken)).2.files.read
          ⟨"app.rs"⟩ ≠ .ok content := by
  refine ⟨broken_spares (.inr rfl), desk_source broken, ?_⟩
  obtain ⟨_, _, _, left⟩ | ⟨early, _⟩ :=
    compile_files .standard (program ⟨"app.rs"⟩ ⟨"app.rs"⟩) (desk broken)
  · rw [left]
    exact FileSystem.read_cleared_self _ _
  · cases (early _ rfl).1

/-! ### The output -/

/-- Nothing can be read at the output of a build whose compiler failed. Where a build fails earlier,
what could be read at its output still can. -/
theorem compile_failed_output {error : BuildError}
    (failed : (compile config job machine).1 = .error error) :
    (error.isFailed = true →
      ∀ content, (compile config job machine).2.files.read job.output ≠ .ok content) ∧
    (error.isFailed = false → machine.launcher.RefusesIdly →
      ∀ content, machine.files.read job.output = .ok content →
        (compile config job machine).2.files.read job.output = .ok content) := by
  obtain ⟨other, same, late, left⟩ | ⟨early, left⟩ := compile_files config job machine
  · obtain rfl := Except.error.inj (failed.symm.trans same)
    rw [late, left]
    exact ⟨fun _ => FileSystem.read_cleared_self _ _, nofun⟩
  · obtain ⟨early, unstarted⟩ := early error failed
    rw [early, left]
    exact ⟨nofun, fun _ idle content readable => (halted_grown idle unstarted).read readable⟩

/-- The old artifact gives way when the compiler fails, and stays when no compiler is known. -/
theorem compile_failed_output_desk :
    (∀ content,
      (compile .standard (program ⟨"app.rs"⟩ ⟨"app"⟩) (desk broken)).2.files.read ⟨"app"⟩ ≠
        .ok content) ∧
      (compile .standard (program ⟨"app.zig"⟩ ⟨"app"⟩) (desk broken)).2.files.read ⟨"app"⟩ =
        .ok (.ofText "old") := by
  obtain ⟨error, failed, late⟩ : ∃ error,
      (compile .standard (program ⟨"app.rs"⟩ ⟨"app"⟩) (desk broken)).1 = .error error ∧
        error.isFailed = true := ⟨_, rfl, rfl⟩
  have unknown : (compile .standard (program ⟨"app.zig"⟩ ⟨"app"⟩) (desk broken)).1 =
      .error (.unknownToolchain ⟨"app.zig"⟩) := rfl
  exact ⟨(compile_failed_output failed).1 late, (compile_failed_output unknown).2 rfl
    (Toolbox.refusesIdly broken) _ (desk_artifact broken)⟩

/-- A compiler that cannot be started leaves an old artifact in the place of the new one. -/
theorem compile_leaves_old_artifact :
    ∃ after, compile .standard (program ⟨"app.rs"⟩ ⟨"app"⟩) (desk []) =
        (.error (.spawn "rustc" .missing), after) ∧
      after.files.read ⟨"app"⟩ = .ok (.ofText "old") :=
  ⟨_, rfl, desk_artifact []⟩

end Builder

end LiveReload
