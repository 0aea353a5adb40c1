/-
**What a tick can do.**

A tick is an attempt at a new generation, if one is due, and then a call of what is active.

* `due`: a build is due;
* `AttemptEnds`: an attempt fails in one of three places or succeeds; each end with all that it
  leaves behind;
* `reload_of_error`, `reload_of_ok`: after a failure only the counters and the log differ, after a
  success the new generation is active;
* `invoke_of_none`, `invoke_of_main`, `invoke_of_legacy`: the call of what is active;
* `invoke_keeps`: an invocation leaves what is active;
* `atCall`, `tick_eq`: the session at this call, and the rest of the tick;
* `atCall_leaves`, `atCall_context`: what of the world and the context is the same at the call;
* `Keeps`: a property of the world that every call to the host keeps, and so every tick and
  every run.
-/
import LiveReload.Reload.Reloader

namespace LiveReload.Reloader

variable {W : Type}

/-- A build is due: there was no tick yet, or a change was reported since. -/
def due (reloader : Reloader) : Bool := reloader.fresh || reloader.changed

/-- How an attempt at a new generation ends: its answer, the counters after it, and the world. -/
inductive AttemptEnds (host : Host W) (reloader : Reloader) (world : W) :
    Except ReloadError Generation × ReloadCounts × W → Prop
  /-- The sources do not build. -/
  | unbuilt {error : BuildError} {built : W}
      (build : host.build reloader.input world = (.error error, built)) :
      AttemptEnds host reloader world
        (.error (.build error),
          { reloader.stats with
            builds := reloader.stats.builds + 1
            buildFailures := reloader.stats.buildFailures + 1 }, built)
  /-- The artifact does not load. -/
  | unloaded {artifact : Path} {built : W} {error : LoadError} {loaded : W}
      (build : host.build reloader.input world = (.ok artifact, built))
      (load : host.load artifact built = (.error error, loaded)) :
      AttemptEnds host reloader world
        (.error (.load error),
          { reloader.stats with
            builds := reloader.stats.builds + 1
            loadFailures := reloader.stats.loadFailures + 1 }, loaded)
  /-- The module exports no entry point. -/
  | unresolved {artifact : Path} {built : W} {module : Module} {loaded : W} {error : LoadError}
      (build : host.build reloader.input world = (.ok artifact, built))
      (load : host.load artifact built = (.ok module, loaded))
      (resolve : EntryPoint.resolve module = .error error) :
      AttemptEnds host reloader world
        (.error (.load error),
          { reloader.stats with
            builds := reloader.stats.builds + 1
            loadFailures := reloader.stats.loadFailures + 1 }, loaded)
  /-- The generation is up. -/
  | up {artifact : Path} {built : W} {module : Module} {loaded : W} {entry : EntryPoint}
      (build : host.build reloader.input world = (.ok artifact, built))
      (load : host.load artifact built = (.ok module, loaded))
      (resolve : EntryPoint.resolve module = .ok entry) :
      AttemptEnds host reloader world
        (.ok ⟨entry, reloader.stats.swaps + 1, module.path⟩,
          { reloader.stats with
            builds := reloader.stats.builds + 1
            swaps := reloader.stats.swaps + 1 }, loaded)

theorem attempt_ends (host : Host W) (reloader : Reloader) (world : W) :
    AttemptEnds host reloader world (attempt host reloader world) := by
  unfold attempt
  rcases build : host.build reloader.input world with ⟨error | artifact, built⟩
  · exact .unbuilt build
  · dsimp only
    rcases load : host.load artifact built with ⟨error | module, loaded⟩
    · exact .unloaded build load
    · dsimp only
      cases resolve : EntryPoint.resolve module with
      | error error => exact .unresolved build load resolve
      | ok entry => exact .up build load resolve

/-- After a failed attempt the active generation stays. -/
theorem reload_of_error {host : Host W} {session : Session W} {error : ReloadError}
    {stats : ReloadCounts} {world : W}
    (failed : attempt host session.reloader session.world = (.error error, stats, world)) :
    reload host session =
      { session with
        reloader := { session.reloader with stats }
        world := host.record (failedRecord session.reloader.active error) world } := by
  simp only [reload, failed]

/-- After a successful attempt the new generation is active, and its module is told. -/
theorem reload_of_ok {host : Host W} {session : Session W} {generation : Generation}
    {stats : ReloadCounts} {world : W}
    (up : attempt host session.reloader session.world = (.ok generation, stats, world)) :
    reload host session =
      let started := initialize? host session.reloader.legacyState generation.entry world
      { reloader :=
          { session.reloader with stats, legacyState := started.1, active := some generation }
        context := { session.context with reloaded := true }
        world := host.record (loadedRecord generation) started.2 } := by
  simp only [reload, up]

/-! ### The call of what is active -/

/-- A reloader with one more invocation counted. -/
def countInvocation (reloader : Reloader) : Reloader :=
  { reloader with
    stats := { reloader.stats with invocations := reloader.stats.invocations + 1 } }

theorem invoke_of_none {host : Host W} {session : Session W}
    (unloaded : session.reloader.active = none) : invoke host session = (none, session) := by
  simp only [invoke, unloaded]

theorem invoke_of_main {host : Host W} {session : Session W} {generation : Generation}
    {address : Address} (active : session.reloader.active = some generation)
    (entry : generation.entry = .main address) :
    invoke host session =
      let answer := host.callMain address session.context session.world
      (none, ⟨session.reloader.countInvocation, answer.1, answer.2⟩) := by
  simp only [invoke, active, entry, countInvocation]

theorem invoke_of_legacy {host : Host W} {session : Session W} {generation : Generation}
    {init update : Address} (active : session.reloader.active = some generation)
    (entry : generation.entry = .legacy init update) :
    invoke host session =
      let answer := host.callUpdate update (session.reloader.legacyState.getD 0) session.world
      (exitCode answer.1, ⟨session.reloader.countInvocation, session.context, answer.2⟩) := by
  simp only [invoke, active, entry, countInvocation]

/-- An invocation is only counted. -/
theorem invoke_reloader (host : Host W) (session : Session W) :
    (invoke host session).2.reloader = session.reloader ∨
      (invoke host session).2.reloader = session.reloader.countInvocation := by
  cases active : session.reloader.active with
  | none =>
    rw [invoke_of_none active]
    exact Or.inl rfl
  | some generation =>
    cases entry : generation.entry with
    | main address =>
      rw [invoke_of_main active entry]
      exact Or.inr rfl
    | legacy init update =>
      rw [invoke_of_legacy active entry]
      exact Or.inr rfl

/-- An invocation leaves the active generation and the number of swaps. -/
theorem invoke_keeps (host : Host W) (session : Session W) :
    (invoke host session).2.reloader.active = session.reloader.active ∧
      (invoke host session).2.reloader.stats.swaps = session.reloader.stats.swaps := by
  rcases invoke_reloader host session with same | counted
  · rw [same]
    exact ⟨rfl, rfl⟩
  · rw [counted]
    exact ⟨rfl, rfl⟩

/-- A session when its active entry point is called: the reload is over and the tick is open. -/
def atCall (host : Host W) (session : Session W) : Session W :=
  let session := reloadIfDue host session
  { session with context := session.context.openTick session.reloader.defaultWake }

/-- A tick is the call of what is active, and then its end. -/
theorem tick_eq (host : Host W) (session : Session W) :
    tick host session =
      let called := invoke host (atCall host session)
      let context := { called.2.context with reloaded := false }.closeTick
      (outcome called.1 context, { called.2 with context }) := rfl

/-- What is active at the call is active after the tick. -/
theorem tick_active (host : Host W) (session : Session W) :
    (tick host session).2.reloader.active = (atCall host session).reloader.active :=
  (invoke_keeps host (atCall host session)).1

/-! ### What happens before the call -/

section Leaves

variable (host : Host W) {Part : Type} (part : W → Part)

/-- A part of the world that builds and loads leave as it is, an attempt leaves as it is. -/
theorem attempt_leaves (build : ∀ input world, part (host.build input world).2 = part world)
    (load : ∀ path world, part (host.load path world).2 = part world) (reloader : Reloader)
    (world : W) : part (attempt host reloader world).2.2 = part world := by
  have build_leaves {input : Path} {answer : Except BuildError Path} {built : W}
      (same : host.build input world = (answer, built)) : part built = part world := by
    rw [← build input world, same]
  have load_leaves {path : Path} {answer : Except LoadError Module} {built loaded : W}
      (same : host.load path built = (answer, loaded)) : part loaded = part built := by
    rw [← load path built, same]
  have ends := attempt_ends host reloader world
  generalize attempt host reloader world = answer at ends
  cases ends with
  | unbuilt built => exact build_leaves built
  | unloaded built loaded => exact (load_leaves loaded).trans (build_leaves built)
  | unresolved built loaded _ => exact (load_leaves loaded).trans (build_leaves built)
  | up built loaded _ => exact (load_leaves loaded).trans (build_leaves built)

/-- What else happens before an invocation is an initializer and a record of the reload loop. -/
theorem atCall_leaves (build : ∀ input world, part (host.build input world).2 = part world)
    (load : ∀ path world, part (host.load path world).2 = part world)
    (callInit : ∀ address world, part (host.callInit address world).2 = part world)
    (say : ∀ severity text world, part (host.record (say severity text) world) = part world)
    (session : Session W) : part (atCall host session).world = part session.world := by
  show part (reloadIfDue host session).world = part session.world
  unfold reloadIfDue
  split
  · let begun : Session W :=
      { session with reloader := { session.reloader with fresh := false, changed := false } }
    show part (reload host begun).world = part begun.world
    have tried := attempt_leaves host part build load begun.reloader begun.world
    rcases result : attempt host begun.reloader begun.world with ⟨error | generation, stats, world⟩
    · rw [reload_of_error result]
      rw [result] at tried
      rw [← tried]
      show part (host.record (failedRecord _ error) world) = part world
      unfold failedRecord
      split <;> exact say _ _ _
    · rw [reload_of_ok result]
      rw [result] at tried
      have started : part (initialize? host begun.reloader.legacyState generation.entry world).2 =
          part world := by
        unfold initialize?
        split
        · exact callInit _ _
        · rfl
      rw [← tried]
      exact (say _ _ _).trans started
  · rfl

end Leaves

/-- Before the invocation a tick changes the flag and the delay of a context, and nothing else. -/
theorem atCall_context (host : Host W) (session : Session W) :
    ∃ reloaded wakeDelay,
      (atCall host session).context = { session.context with reloaded, wakeDelay } := by
  have kept : ∃ reloaded,
      (reloadIfDue host session).context = { session.context with reloaded } := by
    unfold reloadIfDue
    split
    · let begun : Session W :=
        { session with reloader := { session.reloader with fresh := false, changed := false } }
      show ∃ reloaded, (reload host begun).context = { session.context with reloaded }
      rcases result : attempt host begun.reloader begun.world with
        ⟨error | generation, stats, world⟩
      · exact ⟨_, by rw [reload_of_error result]⟩
      · exact ⟨_, by rw [reload_of_ok result]⟩
    · exact ⟨_, rfl⟩
  obtain ⟨reloaded, same⟩ := kept
  exact ⟨reloaded, _, by rw [atCall, same]; rfl⟩

/-! ### What every call keeps -/

/-- A property of the world that an attempt keeps, and every other call. -/
structure Keeps (host : Host W) (kept : W → Prop) : Prop where
  record : ∀ record world, kept world → kept (host.record record world)
  attempt : ∀ reloader world, kept world → kept (attempt host reloader world).2.2
  callMain : ∀ address context world, kept world → kept (host.callMain address context world).2
  callInit : ∀ address world, kept world → kept (host.callInit address world).2
  callUpdate : ∀ address state world, kept world →
    kept (host.callUpdate address state world).2
  wait : ∀ delay world, kept world → kept (host.wait delay world).2

section Keeps

variable {host : Host W} {kept : W → Prop}

theorem reload_keeps (keeps : Keeps host kept) {session : Session W} (start : kept session.world) :
    kept (reload host session).world := by
  have tried := keeps.attempt session.reloader session.world start
  rcases result : attempt host session.reloader session.world with
    ⟨error | generation, stats, after⟩
  · rw [result] at tried
    rw [reload_of_error result]
    exact keeps.record _ _ tried
  · rw [result] at tried
    rw [reload_of_ok result]
    refine keeps.record _ _ ?_
    unfold initialize?
    split
    · exact keeps.callInit _ _ tried
    · exact tried

theorem invoke_keeps_world (keeps : Keeps host kept) {session : Session W}
    (start : kept session.world) : kept (invoke host session).2.world := by
  cases active : session.reloader.active with
  | none =>
    rw [invoke_of_none active]
    exact start
  | some generation =>
    cases entry : generation.entry with
    | main address =>
      rw [invoke_of_main active entry]
      exact keeps.callMain _ _ _ start
    | legacy init update =>
      rw [invoke_of_legacy active entry]
      exact keeps.callUpdate _ _ _ start

theorem tick_keeps (keeps : Keeps host kept) {session : Session W} (start : kept session.world) :
    kept (tick host session).2.world := by
  have reloaded : kept (atCall host session).world := by
    show kept (reloadIfDue host session).world
    unfold reloadIfDue
    split
    · exact reload_keeps keeps start
    · exact start
  rw [tick_eq]
  exact invoke_keeps_world keeps reloaded

/-- What every call keeps, a run of any length keeps. -/
theorem run_keeps (keeps : Keeps host kept) (ticks : Nat) {session : Session W}
    (start : kept session.world) : kept (run host ticks session).2.world := by
  induction ticks generalizing session with
  | zero => exact start
  | succ ticks ih =>
    have ticked := tick_keeps keeps start
    unfold run
    split
    · rename_i code after same
      rw [same] at ticked
      exact keeps.record _ _ ticked
    · rename_i delay after same
      rw [same] at ticked
      have waited := keeps.wait delay after.world ticked
      split
      · rename_i world alone
        rw [alone] at waited
        exact waited
      · rename_i changed world told
        rw [told] at waited
        refine ih ?_
        unfold afterWait
        split
        · exact keeps.record _ _ waited
        · exact waited

end Keeps

end LiveReload.Reloader
