/-
**What a call of a builder does to the artifacts.**

A call makes directories, runs a compiler, and then removes at most one path: its own if the
compiler failed, and the one that the builder remembers if it succeeded. A compiler may write to its
own output and leaves the other artifacts of the session as they are, as the tools of a toolbox do.

* `Builder.readied`, `Builder.ended`: a call up to the start and up to the end of its compiler;
* `Builder.halted`: any build up to the end of its compiler (`compile_halts`);
* `Builder.CallEnds`: all that a call can do after the end of its compiler (`makeModule_ends`);
* `Launcher.WritesOwn`: compilers that write to no other artifact (`Toolbox.writesOwn`);
* `Builder.ended_shows`: what stands at the paths of the session when the compiler has ended.
-/
import LiveReload.Process.Toolbox
import LiveReload.Proofs.Build.ArtifactFiles
import LiveReload.Proofs.Build.FreshLoads

namespace LiveReload

/-- The compiler ran, and ended without success. -/
def BuildError.isFailed : BuildError → Bool
  | failed .. => true
  | _ => false

/-! ### One call -/

namespace Builder

variable {builder : Builder} {input : Path} {machine : Machine}

/-- What a call does before it starts a compiler: the program and its arguments, unless the call
fails before, and the machine. -/
def readied (builder : Builder) (input : Path) (machine : Machine) :
    Option (String × List String) × Machine :=
  let job := CompileJob.forModule input builder.proposal
  match builder.config.toolchainOf input with
  | .error _ => (none, machine)
  | .ok toolchain =>
    match prepare job machine with
    | (some _, machine) => (none, machine)
    | (none, machine) =>
      (some (builder.config.program toolchain, toolchain.commandLine job builder.config), machine)

/-- How a program ended, if it could be started, and the files at this moment. -/
def endOf : Except Fault Finished × Machine → Option Finished × FileSystem
  | (.error _, machine) => (none, machine.files)
  | (.ok finished, machine) => (some finished, machine.files)

/-- How the compiler of a call ended, if it ran, and the files at this moment. -/
def ended (builder : Builder) (input : Path) (machine : Machine) :
    Option Finished × FileSystem :=
  match builder.readied input machine with
  | (none, machine) => (none, machine.files)
  | (some (program, arguments), machine) => endOf (machine.run program arguments)

/-- How the compiler of any build ended, if it ran, and the files at this moment. -/
def halted (config : ToolchainSettings) (job : CompileJob) (machine : Machine) :
    Option Finished × FileSystem :=
  match config.toolchainOf job.input with
  | .error _ => (none, machine.files)
  | .ok toolchain =>
    match prepare job machine with
    | (some _, ready) => (none, ready.files)
    | (none, ready) =>
      endOf (ready.run (config.program toolchain) (toolchain.commandLine job config))

/-- The files when a call that succeeded has removed what its builder remembers. -/
def retired (builder : Builder) (files : FileSystem) : FileSystem :=
  match builder.previous with
  | none => files
  | some previous => if builder.retain then files else files.cleared previous

/-- What a build does after the end of its compiler. -/
inductive CompileEnds (output : Path) (launcher : Launcher) :
    Option Finished × FileSystem → Except BuildError Unit × Machine → Prop
  | unstarted (error : BuildError) (after : Machine) (early : error.isFailed = false)
      (kept : after.launcher = launcher) :
      CompileEnds output launcher (none, after.files) (.error error, after)
  | failed (finished : Finished) (files : FileSystem) (error : BuildError) (after : Machine)
      (late : error.isFailed = true) (failure : finished.status.isSuccess = false)
      (left : after.files = files.cleared output) (kept : after.launcher = launcher) :
      CompileEnds output launcher (some finished, files) (.error error, after)
  | succeeded (finished : Finished) (after : Machine) (success : finished.status.isSuccess = true)
      (kept : after.launcher = launcher) :
      CompileEnds output launcher (some finished, after.files) (.ok (), after)

/-- What a call does after the end of its compiler. -/
inductive CallEnds (builder : Builder) (launcher : Launcher) :
    Option Finished × FileSystem → Except BuildError Path × Builder × Machine → Prop
  | unbuilt (error : BuildError) (after : Machine) (kept : after.launcher = launcher) :
      CallEnds builder launcher (none, after.files)
        (.error error, { builder with names := builder.names.next.2 }, after)
  | failed (finished : Finished) (files : FileSystem) (error : BuildError) (after : Machine)
      (failure : finished.status.isSuccess = false)
      (left : after.files = files.cleared builder.proposal) (kept : after.launcher = launcher) :
      CallEnds builder launcher (some finished, files)
        (.error error, { builder with names := builder.names.next.2 }, after)
  | built (finished : Finished) (files : FileSystem) (after : Machine)
      (success : finished.status.isSuccess = true) (left : after.files = builder.retired files)
      (kept : after.launcher = launcher) :
      CallEnds builder launcher (some finished, files)
        (.ok builder.proposal,
          { builder with names := builder.names.next.2, previous := some builder.proposal }, after)

theorem removeIfThere_left (path : Path) (machine : Machine) :
    (removeIfThere path machine).files = machine.files.cleared path ∧
      (removeIfThere path machine).launcher = machine.launcher := by
  unfold removeIfThere FileSystem.cleared
  cases machine.files.remove path with
  | ok files => exact ⟨rfl, rfl⟩
  | error fault => by_cases missing : fault.isMissing = true <;> simp [missing, Machine.record]

theorem retire_left (builder : Builder) (machine : Machine) :
    (builder.retire machine).files = builder.retired machine.files ∧
      (builder.retire machine).launcher = machine.launcher := by
  unfold retire retired
  cases builder.previous with
  | none => exact ⟨rfl, rfl⟩
  | some previous =>
    by_cases retain : builder.retain = true
    · simp [retain]
    · cases removed : machine.files.remove previous <;>
        simp [retain, removed, FileSystem.cleared, Machine.record]

theorem prepare_left (job : CompileJob) (machine : Machine) :
    machine.files.Growth (prepare job machine).2.files ∧
      (prepare job machine).2.launcher = machine.launcher := by
  unfold prepare
  split
  · exact ⟨.refl _, rfl⟩
  · exact ⟨FileSystem.growth_makeDirectories _ _, rfl⟩

theorem readied_left (builder : Builder) (input : Path) (machine : Machine) :
    machine.files.Growth (builder.readied input machine).2.files ∧
      (builder.readied input machine).2.launcher = machine.launcher := by
  unfold readied
  dsimp only
  split
  · exact ⟨.refl _, rfl⟩
  · have left := prepare_left (.forModule input builder.proposal) machine
    split <;> simp_all

theorem run_launcher (machine : Machine) (program : String) (arguments : List String) :
    (machine.run program arguments).2.launcher = machine.launcher := by
  unfold Machine.run
  split
  · rfl
  · split <;> rfl

/-- A program does not see the log. -/
theorem endOf_run_record (record : Record) (machine : Machine) (program : String)
    (arguments : List String) :
    endOf ((machine.record record).run program arguments) =
      endOf (machine.run program arguments) := by
  unfold Machine.run Machine.record
  split
  · rfl
  · dsimp only
    cases machine.launcher machine.calls program arguments machine.files with
    | mk answer files => cases answer <;> rfl

theorem conclude_ends (job : CompileJob) (program : String) (finished : Finished)
    (machine : Machine) :
    CompileEnds job.output machine.launcher (some finished, machine.files)
      (conclude job program finished machine) := by
  unfold conclude
  by_cases success : finished.status.isSuccess = true
  · rw [if_pos success]
    by_cases silent : (diagnosticsOf finished).isEmpty = true
    · rw [if_pos silent]
      exact .succeeded finished (machine.record _) success rfl
    · rw [if_neg silent]
      exact .succeeded finished ((machine.record _).record _) success rfl
  · rw [if_neg success]
    obtain ⟨files, launcher⟩ := removeIfThere_left job.output
      (machine.record (failureRecord finished.elapsed (diagnosticsOf finished)))
    exact .failed finished _ _ _ rfl (Bool.not_eq_true _ ▸ success) files launcher

theorem launch_ends (job : CompileJob) (program : String) (arguments : List String)
    (machine : Machine) :
    CompileEnds job.output machine.launcher (endOf (machine.run program arguments))
      (launch job program arguments machine) := by
  let told := (machine.record (startRecord job)).record (commandRecord program arguments)
  have same : endOf (told.run program arguments) = endOf (machine.run program arguments) := by
    rw [endOf_run_record, endOf_run_record]
  have kept : (told.run program arguments).2.launcher = machine.launcher :=
    run_launcher told program arguments
  have launched : launch job program arguments machine =
      match told.run program arguments with
      | (.error fault, ran) => (.error (.spawn program fault), ran)
      | (.ok finished, ran) => conclude job program finished ran := rfl
  rw [← same, launched]
  generalize told.run program arguments = ran at kept
  obtain ⟨answer, ran⟩ := ran
  rw [← kept]
  cases answer with
  | error fault => exact .unstarted (.spawn program fault) ran rfl rfl
  | ok finished => exact conclude_ends job program finished ran

theorem early_of_toolchainOf {config : ToolchainSettings} {error : BuildError}
    (unknown : config.toolchainOf input = .error error) : error.isFailed = false := by
  unfold ToolchainSettings.toolchainOf at unknown
  split at unknown
  · cases unknown
  · split at unknown
    · cases unknown
    · cases unknown
    · cases unknown
      rfl

theorem early_of_prepare {job : CompileJob} {ready : Machine} {error : BuildError}
    (unmade : prepare job machine = (some error, ready)) : error.isFailed = false := by
  unfold prepare at unmade
  split at unmade
  · cases unmade
  · obtain ⟨fault, -, rfl⟩ := Option.map_eq_some_iff.mp (congrArg Prod.fst unmade)
    rfl

theorem compile_halts (config : ToolchainSettings) (job : CompileJob) (machine : Machine) :
    CompileEnds job.output machine.launcher (halted config job machine)
      (compile config job machine) := by
  have left := prepare_left job machine
  unfold halted compile
  cases known : config.toolchainOf job.input with
  | error error => exact .unstarted error machine (early_of_toolchainOf known) rfl
  | ok toolchain =>
    dsimp only
    cases prepared : prepare job machine with
    | mk fault ready =>
      rw [prepared] at left
      cases fault with
      | some error => exact .unstarted error ready (early_of_prepare prepared) left.2
      | none =>
        rw [← left.2]
        exact launch_ends job _ _ ready

/-- A call of a builder is a build of a module. -/
theorem ended_eq_halted (builder : Builder) (input : Path) (machine : Machine) :
    builder.ended input machine =
      halted builder.config (.forModule input builder.proposal) machine := by
  have job : (CompileJob.forModule input builder.proposal).input = input := rfl
  unfold ended readied halted
  rw [job]
  cases builder.config.toolchainOf input with
  | error error => rfl
  | ok toolchain =>
    dsimp only
    cases prepare (.forModule input builder.proposal) machine with
    | mk fault ready => cases fault <;> rfl

theorem makeModule_ends (builder : Builder) (input : Path) (machine : Machine) :
    CallEnds builder machine.launcher (builder.ended input machine)
      (builder.makeModule input machine) := by
  have ends := compile_halts builder.config (.forModule input builder.proposal) machine
  rw [← ended_eq_halted] at ends
  unfold proposal at ends
  unfold makeModule
  dsimp only
  generalize compile builder.config (.forModule input builder.names.next.1) machine = compiled
    at ends ⊢
  generalize builder.ended input machine = ended at ends ⊢
  cases ends with
  | unstarted error after _ kept => exact .unbuilt error after kept
  | failed finished files error after _ failure left kept =>
    exact .failed finished files error after failure left kept
  | succeeded finished after success kept =>
    obtain ⟨left, launcher⟩ := builder.retire_left after
    exact .built finished after.files _ success left (launcher.trans kept)

theorem proposal_eq {names : ArtifactNames} {issued : Nat}
    (named : builder.names = { names with issued }) :
    builder.proposal = names.path (issued + 1) := by
  rw [proposal, named]
  rfl

end Builder

/-! ### Compilers -/

theorem CommandLine.exists_options (toolchain : Toolchain) (job : CompileJob)
    (config : ToolchainSettings) :
    ∃ options, toolchain.commandLine job config = options ++ CommandLine.ending job := by
  cases toolchain <;> exact ⟨_, rfl⟩

/-- A view holds of the artifacts of a session, but for one that may be any file or none. -/
def ArtifactNames.ShowsUpTo (names : ArtifactNames) (view : Nat → Option Node) (count : Nat)
    (files : FileSystem) : Prop :=
  ∃ product, (∀ node, product = some node → node.isFile = true) ∧
    names.Shows (Function.update view count product) files

/-- What is free need not be written. -/
theorem ArtifactNames.Shows.upTo {names : ArtifactNames} {view : Nat → Option Node}
    {files : FileSystem} {count : Nat} (shows : names.Shows view files)
    (free : view count = none) : names.ShowsUpTo view count files := by
  refine ⟨none, nofun, ?_⟩
  rwa [← free, Function.update_eq_self]

/-- A compiler that is told to write an artifact leaves the other artifacts of the session as they
are. -/
structure Launcher.WritesOwn (launcher : Launcher) (names : ArtifactNames) : Prop where
  /-- A compiler that cannot be started writes nothing. -/
  refused : ∀ {calls : List CommandLine} {program : String} {options : List String} {input : Path}
    {count : Nat} {files after : FileSystem} {fault : Fault} {view : Nat → Option Node},
    launcher calls program (options ++ CommandLine.ending (.forModule input (names.path count)))
      files = (.error fault, after) →
    names.Shows view files → names.Shows view after
  /-- A compiler that runs may leave a file at its output, however it ends. -/
  ran : ∀ {calls : List CommandLine} {program : String} {options : List String} {input : Path}
    {count : Nat} {files after : FileSystem} {finished : Finished} {view : Nat → Option Node},
    launcher calls program (options ++ CommandLine.ending (.forModule input (names.path count)))
      files = (.ok finished, after) →
    names.Shows view files → view count = none → names.ShowsUpTo view count after

namespace Tool

variable {names : ArtifactNames} {view : Nat → Option Node}

theorem place?_ending (options : List String) (input : Path) (names : ArtifactNames) (count : Nat) :
    place? (options ++ CommandLine.ending (.forModule input (names.path count))) =
      some (names.path count) := by
  induction options with
  | nil =>
    have output : (names.path count).text ≠ "-o" := by
      intro same
      have lengths := congrArg (fun text => text.toList.length) same
      simp [ArtifactNames.toList_path, ArtifactNames.tag] at lengths
      omega
    simp [CommandLine.ending, CompileJob.forModule, place?, output]
  | cons option rest ih =>
    have some : rest ++ CommandLine.ending (.forModule input (names.path count)) ≠ [] := by
      simp [CommandLine.ending]
    obtain ⟨word, more, shape⟩ := List.exists_cons_of_ne_nil some
    rw [List.cons_append, shape, place?, ← shape, ih]

/-- A tool delivers to the path of an artifact, or not at all. -/
theorem deliver_shows {files : FileSystem} {count : Nat} (shows : names.ShowsUpTo view count files)
    (options : List String) (input : Path) (content : Content) :
    names.ShowsUpTo view count (deliver
      (options ++ CommandLine.ending (.forModule input (names.path count))) content files) := by
  rw [deliver, place?_ending]
  dsimp only
  unfold attempt
  split
  · obtain ⟨product, plain, stands⟩ := shows
    have own (node : Node) (held : Function.update view count product count = some node) :
        node.isFile = true := plain node (by rwa [Function.update_self] at held)
    obtain ⟨content, modified, stored⟩ := stands.stored count own ‹_›
    rw [Function.update_idem] at stored
    refine ⟨_, ?_, stored⟩
    rintro _ ⟨⟩
    rfl
  · exact shows

theorem call_shows {files : FileSystem} {count : Nat} (tool : Tool) (untouching : tool.touches = [])
    (shows : names.ShowsUpTo view count files) (index : Nat) (options : List String)
    (input : Path) :
    names.ShowsUpTo view count (tool.call index
      (options ++ CommandLine.ending (.forModule input (names.path count))) files).2 := by
  unfold call
  rw [untouching, List.foldl_nil]
  dsimp only
  cases tool.text with
  | none =>
    split
    · exact shows
    · dsimp only
      split
      · exact deliver_shows shows options input _
      · exact shows
  | some text =>
    have written := deliver_shows shows options input (.ofText text)
    split
    · exact written
    · dsimp only
      split
      · exact deliver_shows written options input _
      · exact written

end Tool

/-- Tools that touch nothing but their output write to no other artifact. -/
theorem Toolbox.writesOwn {tools : Toolbox} (names : ArtifactNames)
    (untouching : ∀ program tool, tools.lookup program = some tool → tool.touches = []) :
    (Toolbox.launcher tools).WritesOwn names where
  refused launched shows := by
    unfold Toolbox.launcher at launched
    split at launched
    · cases launched
      exact shows
    · split at launched
      · cases launched
        exact shows
      · cases launched
  ran launched shows free := by
    unfold Toolbox.launcher at launched
    split at launched
    · cases launched
    · split at launched
      · cases launched
      · cases launched
        exact Tool.call_shows _ (untouching _ _ ‹_›) (shows.upTo free) _ _ _

namespace Builder

variable {names : ArtifactNames} {view : Nat → Option Node}

theorem readied_arguments {builder : Builder} {input : Path} {machine ready : Machine}
    {program : String} {arguments : List String}
    (readied : builder.readied input machine = (some (program, arguments), ready)) :
    ∃ options,
      arguments = options ++ CommandLine.ending (.forModule input builder.proposal) := by
  unfold Builder.readied at readied
  dsimp only at readied
  split at readied
  · cases readied
  · split at readied
    · cases readied
    · cases readied
      exact CommandLine.exists_options _ _ _

theorem endOf_shows {machine : Machine} {program : String} {options : List String} {input : Path}
    {count : Nat} (writes : machine.launcher.WritesOwn names)
    (shows : names.Shows view machine.files) (free : view count = none) :
    let ran := endOf (machine.run program
      (options ++ CommandLine.ending (.forModule input (names.path count))))
    (ran.1 = none → names.Shows view ran.2) ∧ names.ShowsUpTo view count ran.2 := by
  unfold Machine.run
  split
  · exact ⟨fun _ => shows, shows.upTo free⟩
  · cases launched : machine.launcher machine.calls program
      (options ++ CommandLine.ending (.forModule input (names.path count))) machine.files with
    | mk answer after =>
      cases answer with
      | error fault =>
        have same := writes.refused launched shows
        exact ⟨fun _ => same, same.upTo free⟩
      | ok finished => exact ⟨nofun, writes.ran launched shows free⟩

/-- Up to the end of its compiler, a call changes at most what stands at its own path. -/
theorem ended_shows {builder : Builder} {machine : Machine} {issued : Nat}
    (named : builder.names = { names with issued }) (writes : machine.launcher.WritesOwn names)
    (shows : names.Shows view machine.files) (free : view (issued + 1) = none) (input : Path) :
    ((builder.ended input machine).1 = none → names.Shows view (builder.ended input machine).2) ∧
      names.ShowsUpTo view (issued + 1) (builder.ended input machine).2 := by
  obtain ⟨growth, launcher⟩ := builder.readied_left input machine
  unfold ended
  cases readied : builder.readied input machine with
  | mk order ready =>
    rw [readied] at growth launcher
    have same := shows.grown growth
    cases order with
    | none => exact ⟨fun _ => same, same.upTo free⟩
    | some order =>
      obtain ⟨program, arguments⟩ := order
      obtain ⟨options, rfl⟩ := readied_arguments readied
      rw [proposal_eq named]
      exact endOf_shows (launcher ▸ writes) same free

end Builder

end LiveReload
