/-
**Artifacts come and go with their calls.**

A failed call clears its own path, a successful call clears the path of the success before it unless
artifacts are retained, and names are fresh, so that neither ever clears what must stay. After any
calls, what stands at the paths of the session is told from the calls alone: what the compiler left
at each path, and whether the call succeeded.

* `Made.standing`: what has to stand after the calls of the past;
* `Workshop.Kept`: the invariant of calls with changes elsewhere between them (`Kept.build`);
* `Workshop.performAll_lifecycle`: what stands after any calls, and what one more call removes.
-/
import LiveReload.Proofs.Build.Calls

namespace LiveReload

/-- A call of the past: whether it succeeded, and what its compiler left at its path. -/
structure Made where
  succeeded : Bool
  product : Option Node

namespace Made

/-- The number of the last call that succeeded. Calls come the newest first, and the oldest has the
number one. -/
def latest : List Made → Option Nat
  | [] => none
  | made :: earlier => if made.succeeded then some (earlier.length + 1) else latest earlier

/-- What the call with a number left at its path, if it succeeded. -/
def written : List Made → Nat → Option Node
  | [], _ => none
  | made :: earlier, count =>
    if count = earlier.length + 1 then if made.succeeded then made.product else none
    else written earlier count

/-- What has to stand at the path of a number after these calls: what its call left, if the call
succeeded, and unless artifacts are retained, if no later one did. -/
def standing (retain : Bool) (history : List Made) (count : Nat) : Option Node :=
  if retain = true ∨ latest history = some count then written history count else none

variable {retain : Bool} {history : List Made} {count : Nat}

theorem written_of_lt (later : history.length < count) : written history count = none := by
  induction history with
  | nil => rfl
  | cons made earlier ih =>
    rw [List.length_cons] at later
    rw [written, if_neg (by omega), ih (by omega)]

theorem standing_of_lt (later : history.length < count) : standing retain history count = none := by
  rw [standing, written_of_lt later, ite_self]

theorem bounds_of_latest (last : latest history = some count) :
    0 < count ∧ count ≤ history.length := by
  induction history with
  | nil => cases last
  | cons made earlier ih =>
    unfold latest at last
    split at last
    · cases last
      exact ⟨Nat.succ_pos _, Nat.le_refl _⟩
    · exact ⟨(ih last).1, Nat.le_succ_of_le (ih last).2⟩

/-- A call that failed changes nothing. -/
theorem standing_failed (product : Option Node) :
    standing retain (⟨false, product⟩ :: history) = standing retain history := by
  funext count
  rw [standing, standing, latest, written]
  by_cases own : count = history.length + 1
  · simp [own, written_of_lt]
  · simp [own]

/-- A call that succeeded adds what it left, and unless artifacts are retained, takes away what
stood before. -/
theorem standing_succeeded (product : Option Node) :
    standing retain (⟨true, product⟩ :: history) =
      Function.update (if retain then standing retain history else fun _ => none)
        (history.length + 1) product := by
  funext count
  rw [standing, latest, written]
  by_cases own : count = history.length + 1
  · simp [own]
  · have other : history.length + 1 ≠ count := Ne.symm own
    cases retain <;> simp [own, other, standing]

end Made

/-- A builder on its machine, with its calls of the past, the newest first. -/
structure Workshop where
  builder : Builder
  machine : Machine
  history : List Made

/-- What happens next: a call, or a change of files by somebody else. -/
inductive Errand
  | build (input : Path)
  | elsewhere (change : FileSystem → FileSystem)

/-- A change of files that leaves the artifacts of a session as they are. -/
def ArtifactNames.SparedBy (names : ArtifactNames) (change : FileSystem → FileSystem) : Prop :=
  ∀ files view, names.Shows view files → names.Shows view (change files)

namespace Workshop

def perform (workshop : Workshop) : Errand → Workshop
  | .build input =>
    let (answer, builder, machine) := workshop.builder.makeModule input workshop.machine
    let left := (workshop.builder.ended input workshop.machine).2.leaf? workshop.builder.proposal
    ⟨builder, machine, ⟨answer.isOk, left⟩ :: workshop.history⟩
  | .elsewhere change =>
    { workshop with
      machine := { workshop.machine with files := change workshop.machine.files } }

def performAll (workshop : Workshop) (errands : List Errand) : Workshop :=
  errands.foldl perform workshop

theorem perform_build {workshop : Workshop} {input : Path} {answer : Except BuildError Path}
    {builder : Builder} {after : Machine}
    (call : workshop.builder.makeModule input workshop.machine = (answer, builder, after)) :
    workshop.perform (.build input) =
      ⟨builder, after, ⟨answer.isOk, (workshop.builder.ended input workshop.machine).2.leaf?
        workshop.builder.proposal⟩ :: workshop.history⟩ := by
  unfold perform
  dsimp only
  rw [call]

/-- What holds after any calls. -/
structure Kept (names : ArtifactNames) (retain : Bool) (workshop : Workshop) : Prop where
  named : workshop.builder.names = { names with issued := workshop.history.length }
  retains : workshop.builder.retain = retain
  previous : workshop.builder.previous = (Made.latest workshop.history).map names.path
  writes : workshop.machine.launcher.WritesOwn names
  shows : names.Shows (Made.standing retain workshop.history) workshop.machine.files
  plain : ∀ count node, Made.written workshop.history count = some node → node.isFile = true

namespace Kept

variable {names : ArtifactNames} {retain : Bool} {workshop : Workshop}

theorem standing_plain (kept : Kept names retain workshop) {count : Nat} {node : Node}
    (stands : Made.standing retain workshop.history count = some node) : node.isFile = true := by
  unfold Made.standing at stands
  split at stands
  · exact kept.plain count node stands
  · cases stands

/-- A success removes the file of the success before it, unless artifacts are retained. -/
theorem retired (kept : Kept names retain workshop) {files : FileSystem} {product : Option Node}
    (shows : names.Shows (Function.update (Made.standing retain workshop.history)
      (workshop.history.length + 1) product) files) :
    names.Shows (Made.standing retain (⟨true, product⟩ :: workshop.history))
      (workshop.builder.retired files) := by
  rw [Made.standing_succeeded, Builder.retired, kept.previous, kept.retains]
  cases retain with
  | true => cases Made.latest workshop.history <;> exact shows
  | false =>
    cases last : Made.latest workshop.history with
    | none =>
      have empty : Made.standing false workshop.history = fun _ => none := by
        funext count
        simp [Made.standing, last]
      rwa [empty] at shows
    | some count =>
      have earlier : count ≠ workshop.history.length + 1 :=
        Nat.ne_of_lt (Nat.lt_succ_of_le (Made.bounds_of_latest last).2)
      have empty :
          Function.update (Made.standing false workshop.history) count none = fun _ => none := by
        funext other
        by_cases same : other = count
        · simp [same]
        · simp [Made.standing, last, same, Ne.symm same]
      have cleared := shows.cleared count fun node stands => kept.standing_plain (by
        rwa [Function.update_of_ne earlier] at stands)
      rw [Function.update_comm earlier.symm, empty] at cleared
      exact cleared

theorem plain_cons (kept : Kept names retain workshop) (succeeded : Bool) {product : Option Node}
    (plain : ∀ node, product = some node → node.isFile = true) (count : Nat) (node : Node)
    (wrote : Made.written (⟨succeeded, product⟩ :: workshop.history) count = some node) :
    node.isFile = true := by
  unfold Made.written at wrote
  split at wrote
  · split at wrote
    · exact plain node wrote
    · cases wrote
  · exact kept.plain count node wrote

theorem build (kept : Kept names retain workshop) (input : Path) :
    Kept names retain (workshop.perform (.build input)) := by
  have free : Made.standing retain workshop.history (workshop.history.length + 1) = none :=
    Made.standing_of_lt (Nat.lt_succ_self _)
  obtain ⟨unrun, product, plain, shows⟩ :=
    Builder.ended_shows kept.named kept.writes kept.shows free input
  have left : (workshop.builder.ended input workshop.machine).2.leaf? workshop.builder.proposal =
      product := by
    rw [Builder.proposal_eq kept.named, shows.leaf, Function.update_self]
  have ends := workshop.builder.makeModule_ends input workshop.machine
  have next : workshop.builder.names.next.2 =
      { names with issued := workshop.history.length + 1 } := by rw [kept.named]; rfl
  obtain ⟨answer, builder, after, call⟩ : ∃ answer builder after,
      workshop.builder.makeModule input workshop.machine = (answer, builder, after) :=
    ⟨_, _, _, rfl⟩
  rw [perform_build call, left]
  rw [call] at ends
  generalize workshop.builder.ended input workshop.machine = ended at ends unrun shows
  cases ends with
  | unbuilt error after launcher =>
    have same : names.Shows (Made.standing retain (⟨false, product⟩ :: workshop.history))
        after.files := by
      rw [Made.standing_failed]
      exact unrun rfl
    exact ⟨next, kept.retains, kept.previous, launcher ▸ kept.writes, same,
      kept.plain_cons false plain⟩
  | failed finished files error after failure cleared launcher =>
    have same : names.Shows (Made.standing retain (⟨false, product⟩ :: workshop.history))
        after.files := by
      have own := shows.cleared (workshop.history.length + 1) fun node stands =>
        plain node (by rwa [Function.update_self] at stands)
      rw [Function.update_idem, ← free, Function.update_eq_self] at own
      rw [cleared, Builder.proposal_eq kept.named, Made.standing_failed]
      exact own
    exact ⟨next, kept.retains, kept.previous, launcher ▸ kept.writes, same,
      kept.plain_cons false plain⟩
  | built finished files after success retired launcher =>
    have replaced : names.Shows (Made.standing retain (⟨true, product⟩ :: workshop.history))
        after.files := by
      rw [retired]
      exact kept.retired shows
    exact ⟨next, kept.retains, congrArg some (Builder.proposal_eq kept.named),
      launcher ▸ kept.writes, replaced, kept.plain_cons true plain⟩

theorem perform (kept : Kept names retain workshop) (errand : Errand)
    (spared : ∀ change, errand = .elsewhere change → names.SparedBy change) :
    Kept names retain (workshop.perform errand) := by
  cases errand with
  | build input => exact kept.build input
  | elsewhere change =>
    have shows := spared change rfl _ _ kept.shows
    exact { kept with shows, writes := kept.writes }

theorem performAll (kept : Kept names retain workshop) {errands : List Errand}
    (spared : ∀ change, .elsewhere change ∈ errands → names.SparedBy change) :
    Kept names retain (workshop.performAll errands) := by
  induction errands generalizing workshop with
  | nil => exact kept
  | cons errand rest ih =>
    have next := kept.perform errand fun change same => spared change (same ▸ List.mem_cons_self)
    exact ih next fun change later => spared change (List.mem_cons_of_mem _ later)

variable {input : Path} {answer : Except BuildError Path} {builder : Builder} {after : Machine}

/-- A call that fails leaves every artifact, and what the builder remembers. -/
theorem failed (kept : Kept names retain workshop) {error : BuildError}
    (call : workshop.builder.makeModule input workshop.machine = (.error error, builder, after)) :
    builder.previous = workshop.builder.previous ∧
      ∀ count, after.files.leaf? (names.path count) =
        workshop.machine.files.leaf? (names.path count) := by
  have next := kept.build input
  rw [perform_build call] at next
  refine ⟨next.previous.trans kept.previous.symm, fun count => ?_⟩
  have stands := next.shows.leaf count
  rw [kept.shows.leaf, ← Made.standing_failed]
  exact stands

/-- After the end of its compiler, a call removes at most one path, which is one of the session and
not the one that it answers. -/
theorem removes (kept : Kept names retain workshop)
    (call : workshop.builder.makeModule input workshop.machine = (answer, builder, after)) :
    after.files = (workshop.builder.ended input workshop.machine).2 ∨
      ∃ count, 0 < count ∧ count ≤ workshop.history.length + 1 ∧
        after.files =
          (workshop.builder.ended input workshop.machine).2.cleared (names.path count) ∧
        ∀ path, answer = .ok path → path.same (names.path count) = false := by
  have ends := workshop.builder.makeModule_ends input workshop.machine
  rw [call] at ends
  generalize workshop.builder.ended input workshop.machine = ended at ends
  cases ends with
  | unbuilt => exact .inl rfl
  | failed finished files error after failure left =>
    rw [Builder.proposal_eq kept.named] at left
    exact .inr ⟨_, Nat.succ_pos _, Nat.le_refl _, left, nofun⟩
  | built finished files after success left =>
    rw [Builder.retired, kept.previous] at left
    cases last : Made.latest workshop.history with
    | none =>
      rw [last] at left
      exact .inl left
    | some count =>
      rw [last] at left
      obtain ⟨positive, most⟩ := Made.bounds_of_latest last
      by_cases retains : workshop.builder.retain = true
      · exact .inl (left.trans (if_pos retains))
      · refine .inr ⟨count, positive, Nat.le_succ_of_le most, left.trans (if_neg retains), ?_⟩
        rintro path ⟨⟩
        rw [Builder.proposal_eq kept.named]
        by_contra same
        have counts := (ArtifactNames.path_inj rfl rfl (Bool.of_not_eq_false same)).2
        omega

end Kept

/-- **Artifacts come and go with their calls.** Take a builder whose session has no artifacts yet,
compilers that write at most to their own output, whether they then fail or cannot be started at
all, and any calls with changes between them that leave the artifacts alone. Then what stands at the
path of a number is what the compiler of its call left there, if the call succeeded, and unless
artifacts are retained, if no later call did; nothing else of the session stands. The builder
remembers the path of the last success. One more call leaves all of this as it is if it fails;
before its compiler it only makes directories, and after it removes at most one path, which is one
of the session and not the path that it answers. -/
theorem performAll_lifecycle (config : ToolchainSettings) (dir : Path) (stem : String)
    (session : Nat) (retain : Bool) (machine : Machine) (errands : List Errand)
    (unused : (ArtifactNames.new dir stem session).Shows (fun _ => none) machine.files)
    (writes : machine.launcher.WritesOwn (.new dir stem session))
    (spared : ∀ change, .elsewhere change ∈ errands →
      (ArtifactNames.new dir stem session).SparedBy change) :
    let names := ArtifactNames.new dir stem session
    let workshop := performAll ⟨.new config names retain, machine, []⟩ errands
    (∀ count, workshop.machine.files.leaf? (names.path count) =
        if retain = true ∨ Made.latest workshop.history = some count then
          Made.written workshop.history count
        else none) ∧
      workshop.builder.previous = (Made.latest workshop.history).map names.path ∧
      ∀ input answer builder after,
        workshop.builder.makeModule input workshop.machine = (answer, builder, after) →
        (∀ error, answer = .error error → builder.previous = workshop.builder.previous ∧
          ∀ count, after.files.leaf? (names.path count) =
            workshop.machine.files.leaf? (names.path count)) ∧
        workshop.machine.files.Growth (workshop.builder.readied input workshop.machine).2.files ∧
        (after.files = (workshop.builder.ended input workshop.machine).2 ∨
          ∃ count, 0 < count ∧ count ≤ workshop.history.length + 1 ∧
            after.files =
              (workshop.builder.ended input workshop.machine).2.cleared (names.path count) ∧
            ∀ path, answer = .ok path → path.same (names.path count) = false) := by
  intro names workshop
  have start : Kept names retain ⟨.new config names retain, machine, []⟩ := by
    have empty : Made.standing retain [] = fun _ => none := by
      funext count
      exact ite_self none
    exact ⟨rfl, rfl, rfl, writes, by rwa [empty], nofun⟩
  have kept : Kept names retain workshop := start.performAll spared
  refine ⟨kept.shows.leaf, kept.previous, fun input answer builder after call => ?_⟩
  refine ⟨?_, (workshop.builder.readied_left input workshop.machine).1, kept.removes call⟩
  rintro error rfl
  exact kept.failed call

/-- A machine with no files and a compiler that fails at its second call. -/
def bench : Machine :=
  .new ⟨.dir [] 0, [], 1, []⟩ (Toolbox.launcher
    [("rustc", ⟨0, [], [], none, none, [.library .main, .failure 1, .library .main], []⟩)])

theorem bench_unused (names : ArtifactNames) : names.Shows (fun _ => none) bench.files := by
  refine ArtifactNames.shows_nothing fun home count node found => ?_
  have empty : (Node.dir [] 0).entries = [] := rfl
  have absent : bench.files.root.seen (home ++ [names.name count]) = none :=
    Node.seen_of_bare empty (by simp)
  rw [absent] at found
  cases found

theorem bench_writesOwn (names : ArtifactNames) : bench.launcher.WritesOwn names := by
  refine Toolbox.writesOwn names fun program tool found => ?_
  rw [Entries.lookup_cons_eq] at found
  split at found
  · cases found
    rfl
  · cases found

/-- Three calls on the bench, of which the first makes the directory and the second fails, with a
change elsewhere between them. -/
theorem performAll_lifecycle_benched :
    let names := ArtifactNames.new ⟨"out"⟩ "hot" 7
    let workshop := performAll ⟨.new .standard names false, bench, []⟩
      [.build ⟨"app.rs"⟩, .elsewhere fun files => (files.makeDirectories ⟨"notes"⟩).2,
        .build ⟨"app.rs"⟩, .build ⟨"app.rs"⟩]
    names.Shows (fun _ => none) bench.files ∧ bench.launcher.WritesOwn names ∧
      ∀ count, workshop.machine.files.leaf? (names.path count) =
        if false = true ∨ Made.latest workshop.history = some count then
          Made.written workshop.history count
        else none := by
  refine ⟨bench_unused _, bench_writesOwn _, ?_⟩
  refine (performAll_lifecycle .standard ⟨"out"⟩ "hot" 7 false bench _ (bench_unused _)
    (bench_writesOwn _) ?_).1
  intro change member files view shows
  simp only [List.mem_cons, List.not_mem_nil, reduceCtorEq, Errand.elsewhere.injEq, false_or,
    or_false] at member
  rw [member]
  exact shows.grown (files.growth_makeDirectories _)

end Workshop

end LiveReload
