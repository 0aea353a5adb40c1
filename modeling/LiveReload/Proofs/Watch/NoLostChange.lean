/-
**No change is lost.**

A change may be delivered at any moment, also while the build runs that answers an earlier one. It
then waits in the inbox; the next wait does not end before the inbox is empty, tells that there was
a change, and the tick after it builds. So every relevant notification that was delivered before a
wait is followed by a build that begins after its delivery, at the latest in the tick after the
wait.

* `RoundKept`: what holds of a tick with its wait, given the rounds before it;
* `Kept`: the invariant of the loop. What was delivered is consumed or queued, in order, and what is
  relevant is queued, or a build is due, or a build began since;
* `Kept.passes`, `Kept.waited`: ticks and waits keep it;
* `run_misses_nothing`: what holds of every run by every schedule.
-/
import LiveReload.Proofs.Reload.Chronicle
import LiveReload.Proofs.Watch.WatchedTick

namespace LiveReload

variable {W α : Type}

/-! ### Places in a history -/

/-- An item behind a first part and before a last part is in the part between. -/
theorem mem_between {front middle back early later : List α} {item : α}
    (whole : front ++ (middle ++ back) = early ++ item :: later)
    (after : front.length ≤ early.length) (before : early.length < front.length + middle.length) :
    item ∈ middle := by
  rcases split_append whole with ⟨between, rfl, rest⟩ | ⟨between, rfl, _⟩
  · rcases split_append rest with ⟨beyond, rfl, _⟩ | ⟨beyond, rfl, _⟩
    · rw [List.length_append, List.length_append] at before
      omega
    · simp
  · rw [List.length_append, List.length_cons] at after
    omega

/-! ### The invariant -/

namespace Scene

/-- What holds of a round after others: it answers whether it consumed something relevant, all that
is relevant and was delivered before its wait was answered by a build or is told by the wait, its
wait began no build, and its tick began one exactly if the wait before it told of a change. -/
structure RoundKept (config : WatchSettings) (past : List Round) (round : Round) : Prop where
  answer : round.changed = (consumedIn round.wait).any (·.isRelevant config)
  unbuilt : .buildBegan ∉ round.wait
  answered : ∀ early notification later,
    past.flatMap Round.events ++ round.tick = early ++ .delivered notification :: later →
    notification.isRelevant config = true → .buildBegan ∈ later ∨ round.changed = true
  built : ∀ before ∈ past.getLast?, .buildBegan ∈ round.tick ↔ before.changed = true

/-- What the waits that are over consumed. -/
def heard (scene : Scene W) : List Notification :=
  scene.rounds.flatMap fun round => consumedIn round.wait

/-- All that happened before a wait. -/
def history (scene : Scene W) : List WatchEvent := scene.rounds.flatMap Round.events ++ scene.tick

/-- Outside of a wait, everything that was delivered is consumed or queued, and what is relevant is
queued, or a build is due, or a build began after it was delivered. -/
structure Kept (config : WatchSettings) (scene : Scene W) (due : Bool) : Prop where
  settings : scene.watcher.config = config
  wait : scene.wait = []
  queue : scene.heard ++ scene.inbox.queue = deliveredIn scene.history
  rounds : ∀ past round rest, scene.rounds = past ++ round :: rest → RoundKept config past round
  owed : ∀ early notification later,
    scene.history = early ++ .delivered notification :: later →
    notification.isRelevant config = true →
    .buildBegan ∈ later ∨ scene.heard.length ≤ (deliveredIn early).length ∨ due = true

variable {config : WatchSettings} {before after : Scene W} {due now changed : Bool}
  {made during : List WatchEvent}

/-- Nothing is consumed that was not delivered. -/
theorem Kept.heard_le (kept : Kept config before due) :
    before.heard.length ≤ (deliveredIn before.history).length := by
  rw [← kept.queue, List.length_append]
  exact Nat.le_add_right _ _

/-- Calls of a tick keep the invariant; a build that is due stays so unless they begin one. -/
theorem Kept.passes (kept : Kept config before due) (passes : Passes before after made)
    (paid : due = true → now = true ∨ .buildBegan ∈ made) : Kept config after now := by
  have heard : after.heard = before.heard := by
    unfold Scene.heard
    rw [passes.rounds]
  have history : after.history = before.history ++ made := by
    unfold Scene.history
    rw [passes.rounds, passes.tick, List.append_assoc]
  refine ⟨passes.watcher ▸ kept.settings, passes.wait.trans kept.wait, ?_, ?_, ?_⟩
  · rw [heard, history, passes.queue, deliveredIn_append, ← kept.queue, List.append_assoc]
  · rw [passes.rounds]
    exact kept.rounds
  · intro early notification later whole relevant
    rw [history] at whole
    rw [heard]
    rcases split_append whole with ⟨between, rfl, _⟩ | ⟨between, earlier, rfl⟩
    · -- Delivered by these calls, so behind everything that was consumed.
      right; left
      rw [deliveredIn_append, List.length_append]
      exact Nat.le_add_right_of_le kept.heard_le
    · rcases kept.owed early notification between earlier relevant with began | queued | due
      · exact .inl (List.mem_append_left _ began)
      · exact .inr (.inl queued)
      · rcases paid due with still | began
        · exact .inr (.inr still)
        · exact .inl (List.mem_append_right _ began)

/-- What a wait consumed, told from its place among all deliveries. -/
theorem Heard.mem_consumed (heard : Heard before after false false (some changed) during)
    (kept : Kept config before false) {early later : List WatchEvent}
    {notification : Notification}
    (whole : before.history ++ during = early ++ .delivered notification :: later)
    (queued : before.heard.length ≤ (deliveredIn early).length)
    (taken : (deliveredIn early).length < before.heard.length + (consumedIn during).length) :
    notification ∈ consumedIn during := by
  have delivered : before.heard ++ (consumedIn during ++ after.inbox.queue) =
      deliveredIn early ++ notification :: deliveredIn later := by
    rw [heard.queue, ← List.append_assoc, kept.queue, ← deliveredIn_append, whole,
      deliveredIn_append]
    rfl
  exact mem_between delivered queued taken

/-- A wait that consumed something relevant tells of a change. -/
theorem Heard.changed_of_mem (heard : Heard before after false false (some changed) during)
    (kept : Kept config before false) {notification : Notification}
    (member : notification ∈ consumedIn during)
    (relevant : notification.isRelevant config = true) : changed = true := by
  rw [heard.told changed rfl, Bool.false_or, kept.settings]
  exact List.any_eq_true.mpr ⟨notification, member, relevant⟩

/-- The round that a wait completes: the wait did not end before it had consumed all that was
queued. -/
theorem Kept.round (kept : Kept config before false)
    (heard : Heard before after false false (some changed) during)
    (built : ∀ last ∈ before.rounds.getLast?, .buildBegan ∈ before.tick ↔ last.changed = true) :
    RoundKept config before.rounds ⟨before.tick, during, changed⟩ where
  answer := by
    show changed = (consumedIn during).any _
    rw [heard.told changed rfl, Bool.false_or, kept.settings]
  unbuilt := heard.unbuilt
  answered := by
    intro early notification later whole relevant
    rcases kept.owed early notification later whole relevant with began | queued | due
    · exact .inl began
    · right
      -- It was queued when the wait began, and the wait took all that was queued.
      have drained := (heard.drained (by simp) rfl).length_le
      have place :
          (deliveredIn early).length < before.heard.length + (consumedIn during).length := by
        have parts := congrArg List.length kept.queue
        rw [Scene.history, whole, deliveredIn_append, List.length_append, List.length_append]
          at parts
        have one : 0 < (deliveredIn (.delivered notification :: later)).length := Nat.succ_pos _
        omega
      have further : before.history ++ during =
          early ++ .delivered notification :: (later ++ during) := by
        rw [Scene.history, whole, List.append_assoc]
        rfl
      exact heard.changed_of_mem kept (heard.mem_consumed kept further queued place) relevant
    · cases due
  built := built

/-- What is relevant and not consumed by a wait is still queued, or was answered before. -/
theorem Kept.owed_after (kept : Kept config before false)
    (heard : Heard before after false false (some changed) during) {early later : List WatchEvent}
    {notification : Notification}
    (whole : before.history ++ during = early ++ .delivered notification :: later)
    (relevant : notification.isRelevant config = true) :
    .buildBegan ∈ later ∨
      before.heard.length + (consumedIn during).length ≤ (deliveredIn early).length ∨
      changed = true := by
  by_cases taken :
      (deliveredIn early).length < before.heard.length + (consumedIn during).length
  · rcases split_append whole with ⟨between, front, _⟩ | ⟨between, earlier, rfl⟩
    · have queued : before.heard.length ≤ (deliveredIn early).length := by
        rw [front, deliveredIn_append, List.length_append]
        exact Nat.le_add_right_of_le kept.heard_le
      exact .inr (.inr (heard.changed_of_mem kept (heard.mem_consumed kept whole queued taken)
        relevant))
    · rcases kept.owed early notification between earlier relevant with began | queued | due
      · exact .inl (List.mem_append_left _ began)
      · exact .inr (.inr (heard.changed_of_mem kept
          (heard.mem_consumed kept whole queued taken) relevant))
      · cases due
  · exact .inr (.inl (Nat.le_of_not_lt taken))

/-- **A wait keeps the invariant**: what it tells is due afterwards. -/
theorem Kept.waited (kept : Kept config before false)
    (heard : Heard before after false false (some changed) during)
    (built : ∀ last ∈ before.rounds.getLast?, .buildBegan ∈ before.tick ↔ last.changed = true) :
    Kept config after changed := by
  obtain ⟨rounds, tick, wait⟩ := heard.ended changed rfl
  rw [kept.wait, List.nil_append] at rounds
  have consumed : after.heard = before.heard ++ consumedIn during := by
    unfold Scene.heard
    rw [rounds, List.flatMap_append, List.flatMap_singleton]
  have history : after.history = before.history ++ during := by
    unfold Scene.history
    rw [rounds, tick, List.flatMap_append, List.flatMap_singleton, List.append_nil,
      List.append_assoc]
    rfl
  refine ⟨heard.config.trans kept.settings, wait, ?_, ?_, ?_⟩
  · rw [consumed, history, List.append_assoc, heard.queue, deliveredIn_append, ← kept.queue,
      List.append_assoc]
  · intro past round rest whole
    rw [rounds] at whole
    rcases split_append whole with ⟨between, rfl, last⟩ | ⟨between, earlier, _⟩
    · cases between with
      | cons other between => simp at last
      | nil =>
        obtain ⟨rfl, _⟩ := List.cons.inj last
        rw [List.append_nil]
        exact kept.round heard built
    · exact kept.rounds past round between earlier
  · intro early notification later whole relevant
    rw [history] at whole
    rw [consumed, List.length_append]
    exact kept.owed_after heard whole relevant

/-- The tick that came right after a round, given the rounds after it. -/
def tickAfter (scene : Scene W) : List Round → List WatchEvent
  | [] => scene.tick
  | next :: _ => next.tick

/-- Everything that was delivered, in rounds and since. -/
def delivered (scene : Scene W) : List Notification :=
  deliveredIn (scene.history ++ scene.wait)

/-- Everything that was consumed, by waits that are over and by one that is not. -/
def consumed (scene : Scene W) : List Notification := scene.heard ++ consumedIn scene.wait

/-- What holds when a run is over or is seen no further. -/
structure Final (config : WatchSettings) (ended : Option RunEnd) (scene : Scene W) : Prop where
  queue : scene.consumed ++ scene.inbox.queue = scene.delivered
  rounds : ∀ past round rest, scene.rounds = past ++ round :: rest → RoundKept config past round
  unbuilt : .buildBegan ∉ scene.wait
  last : ∀ last ∈ scene.rounds.getLast?, .buildBegan ∈ scene.tick → last.changed = true
  done : ended ≠ none → ∀ last ∈ scene.rounds.getLast?, last.changed = true →
    .buildBegan ∈ scene.tick

/-- A run that stops outside of a wait. -/
theorem Kept.final {ended : Option RunEnd} (kept : Kept config before due)
    (last : ∀ last ∈ before.rounds.getLast?, .buildBegan ∈ before.tick → last.changed = true)
    (done : ended ≠ none → ∀ last ∈ before.rounds.getLast?, last.changed = true →
      .buildBegan ∈ before.tick) :
    Final config ended before where
  queue := by
    unfold consumed delivered
    rw [kept.wait, List.append_nil]
    exact (congrArg (· ++ _) (List.append_nil _)).trans kept.queue
  rounds := kept.rounds
  unbuilt := by
    rw [kept.wait]
    exact List.not_mem_nil
  last := last
  done := done

/-- A run that stops in a wait. -/
theorem Kept.cut {ended : Option RunEnd} (kept : Kept config before false)
    (heard : Heard before after false false none during)
    (built : ∀ last ∈ before.rounds.getLast?, .buildBegan ∈ before.tick ↔ last.changed = true) :
    Final config ended after := by
  obtain ⟨rounds, tick, wait⟩ := heard.cut rfl
  rw [kept.wait, List.nil_append] at wait
  refine ⟨?_, ?_, ?_, ?_, ?_⟩
  · unfold consumed delivered Scene.heard history
    rw [rounds, tick, wait, List.append_assoc, heard.queue, deliveredIn_append,
      ← List.append_assoc]
    exact congrArg (· ++ deliveredIn during) kept.queue
  · rw [rounds]
    exact kept.rounds
  · rw [wait]
    exact heard.unbuilt
  · rw [rounds, tick]
    exact fun last member => (built last member).mp
  · rw [rounds, tick]
    exact fun _ last member => (built last member).mpr

end Scene

/-! ### The run -/

/-- A session whose loop is run by a schedule, with a watcher that has an empty inbox. -/
def Session.watchedBy (session : Session W) (watcher : Watcher) (schedule : List Move) :
    Session (Scene W) :=
  ⟨session.reloader, session.context,
    { world := session.world, watcher, inbox := ⟨[], true⟩, schedule, rounds := [], tick := [],
      wait := [] }⟩

namespace Reloader

open Scene

variable {config : WatchSettings}

/-- Before a tick: the invariant holds, no build began since the last wait, and one is due if that
wait told of a change. -/
structure Ready (config : WatchSettings) (session : Session (Scene W)) : Prop where
  kept : Kept config session.world session.reloader.due
  unbuilt : .buildBegan ∉ session.world.tick
  due : ∀ last ∈ session.world.rounds.getLast?, session.reloader.due = last.changed

/-- After a tick: no build is due, and one began if the wait before told of a change. -/
structure Ticked (config : WatchSettings) (session : Session (Scene W)) : Prop where
  kept : Kept config session.world false
  built : ∀ last ∈ session.world.rounds.getLast?,
    .buildBegan ∈ session.world.tick ↔ last.changed = true
  done : session.reloader.due = false

theorem Ready.tick {session : Session (Scene W)} (ready : Ready config session) (host : Host W) :
    Ticked config (tick host.watched session).2 := by
  obtain ⟨made, ticks⟩ := tick_ticks host session
  refine ⟨ready.kept.passes ticks.passes fun due => .inr (ticks.built.mpr due), ?_, ticks.done⟩
  intro last member
  rw [ticks.passes.rounds] at member
  rw [ticks.passes.tick, List.mem_append, ticks.built, ready.due last member]
  exact ⟨fun began => began.resolve_left ready.unbuilt, .inr⟩

/-- Deliveries before the next step change nothing that holds after a tick. -/
theorem Ticked.passes {session : Session (Scene W)} (ticked : Ticked config session)
    {after : Scene W} {made : List WatchEvent} (passes : Passes session.world after made)
    (quiet : .buildBegan ∉ made) :
    Kept config after false ∧
      ∀ last ∈ after.rounds.getLast?, .buildBegan ∈ after.tick ↔ last.changed = true := by
  refine ⟨ticked.kept.passes passes (fun due => nomatch due), ?_⟩
  intro last member
  rw [passes.rounds] at member
  rw [passes.tick, List.mem_append, ticked.built last member]
  exact ⟨fun began => began.resolve_right quiet, .inl⟩

/-- What a wait told is due before the next tick. -/
theorem ready_afterWait (host : Host W) {session : Session (Scene W)} {changed : Bool}
    (kept : Kept config session.world changed) (done : session.reloader.due = false)
    (fresh : session.world.tick = [])
    (told : ∀ last ∈ session.world.rounds.getLast?, changed = last.changed) :
    Ready config (afterWait host.watched changed session) := by
  cases changed with
  | false =>
    refine ⟨?_, ?_, ?_⟩
    · show Kept config session.world session.reloader.due
      rw [done]
      exact kept
    · show .buildBegan ∉ session.world.tick
      rw [fresh]
      exact List.not_mem_nil
    · intro last member
      exact done.trans (told last member)
  | true =>
    obtain ⟨made, passes, quiet⟩ :=
      record_passes host session.world (changeRecord session.reloader.input)
    have due : (afterWait host.watched true session).reloader.due = true := Bool.or_true _
    refine ⟨?_, ?_, ?_⟩
    · rw [due]
      exact kept.passes passes fun due => .inl due
    · show .buildBegan ∉ (host.watched.record _ session.world).tick
      rw [passes.tick, fresh]
      exact quiet
    · intro last member
      have before : last ∈ session.world.rounds.getLast? := passes.rounds ▸ member
      exact due.trans (told last before)

theorem run_final (host : Host W) (ticks : Nat) {session : Session (Scene W)}
    (ready : Ready config session) :
    Final config (run host.watched ticks session).1 (run host.watched ticks session).2.world := by
  -- Round by round: a tick makes what is ready ticked, and a wait makes it ready again.
  induction ticks generalizing session with
  | zero =>
    refine ready.kept.final ?_ (fun ended => absurd rfl ended)
    exact fun _ _ began => absurd began ready.unbuilt
  | succ ticks ih =>
    have ticked := ready.tick host
    unfold run
    rcases step : tick host.watched session with ⟨delay | code, after⟩
    · rw [step] at ticked
      dsimp only at ticked ⊢
      obtain ⟨made, passes, quiet⟩ := after.world.attend_passes
      obtain ⟨kept, built⟩ := ticked.passes passes quiet
      obtain ⟨during, heard⟩ :=
        after.world.attend.listen_heard host false false after.world.attend.schedule
      rcases waited : host.watched.wait delay after.world with ⟨none | changed, scene⟩
      · rw [show after.world.attend.listen host false false after.world.attend.schedule =
          (none, scene) from waited] at heard
        exact kept.cut heard built
      · rw [show after.world.attend.listen host false false after.world.attend.schedule =
          (some changed, scene) from waited] at heard
        obtain ⟨rounds, tick, _⟩ := heard.ended changed rfl
        have told : ∀ last ∈ scene.rounds.getLast?, changed = last.changed := by
          rw [rounds, List.getLast?_concat]
          intro last same
          rw [← Option.some.inj same]
        exact ih (ready_afterWait host (kept.waited heard built) ticked.done tick told)
    · rw [step] at ticked
      dsimp only at ticked ⊢
      obtain ⟨made, passes, quiet⟩ := record_passes host after.world
        (exitRecord code after.context.tick after.reloader.stats.swaps)
      obtain ⟨kept, built⟩ := ticked.passes passes quiet
      exact kept.final (fun last member => (built last member).mp)
        fun _ last member => (built last member).mpr

/-- **No change is lost.** However deliveries and the steps of the loop follow each other, as far as
the run is seen: waits consume what was delivered, in order, and each notification once; a wait that
is over told of a change exactly if it consumed something relevant; whatever relevant was delivered
before such a wait is followed by the beginning of a build, in the tick after the wait at the
latest; no build begins in a wait, and after the first wait a tick begins one only if the wait
before it consumed something relevant. -/
theorem run_misses_nothing (host : Host W) (session : Session W) (watcher : Watcher)
    (schedule : List Move) (ticks : Nat) :
    let result := run host.watched ticks (session.watchedBy watcher schedule)
    let scene := result.2.world
    scene.consumed ++ scene.inbox.queue = scene.delivered ∧ .buildBegan ∉ scene.wait ∧
      (∀ round ∈ scene.rounds, .buildBegan ∉ round.wait ∧ (round.changed = true ↔
        ∃ notification ∈ consumedIn round.wait, notification.isRelevant watcher.config = true)) ∧
      ∀ past round rest, scene.rounds = past ++ round :: rest →
        (rest ≠ [] ∨ result.1 ≠ none →
          ∀ early notification later,
            past.flatMap Round.events ++ round.tick = early ++ .delivered notification :: later →
            notification.isRelevant watcher.config = true →
            .buildBegan ∈ later ∨ .buildBegan ∈ scene.tickAfter rest) ∧
          (.buildBegan ∈ scene.tickAfter rest →
            ∃ notification ∈ consumedIn round.wait,
              notification.isRelevant watcher.config = true) := by
  intro result scene
  have ready : Ready watcher.config (session.watchedBy watcher schedule) := by
    refine ⟨⟨rfl, rfl, rfl, ?_, ?_⟩, List.not_mem_nil, fun last member => nomatch member⟩
    · intro past round rest whole
      exact absurd whole (by simp [Session.watchedBy])
    · intro early notification later whole
      exact absurd whole (by simp [Session.watchedBy, history])
  have final : Final watcher.config result.1 scene := run_final host ticks ready
  have answers : ∀ past round rest, scene.rounds = past ++ round :: rest →
      (round.changed = true ↔
        ∃ notification ∈ consumedIn round.wait,
          notification.isRelevant watcher.config = true) := by
    intro past round rest whole
    rw [(final.rounds past round rest whole).answer, List.any_eq_true]
  refine ⟨final.queue, final.unbuilt, ?_, ?_⟩
  · intro round member
    obtain ⟨past, rest, whole⟩ := List.append_of_mem member
    exact ⟨(final.rounds past round rest whole).unbuilt, answers past round rest whole⟩
  · intro past round rest whole
    have kept := final.rounds past round rest whole
    rw [← answers past round rest whole]
    cases rest with
    | nil =>
      have last : round ∈ scene.rounds.getLast? := by
        rw [whole, List.getLast?_concat]
        rfl
      refine ⟨?_, final.last round last⟩
      intro ticked early notification later before relevant
      have done := ticked.resolve_left fun more => more rfl
      exact (kept.answered early notification later before relevant).imp_right
        (final.done done round last)
    | cons next rest =>
      have further : scene.rounds = (past ++ [round]) ++ next :: rest := by
        rw [whole, List.append_assoc]
        rfl
      have last : round ∈ (past ++ [round]).getLast? := by
        rw [List.getLast?_concat]
        rfl
      have built := (final.rounds _ next rest further).built round last
      refine ⟨?_, built.mp⟩
      intro _ early notification later before relevant
      exact (kept.answered early notification later before relevant).imp_right built.mpr

/-- A change that is delivered while the first build runs is told by the wait after it, and built in
the tick after that wait. -/
example (context : Context) :
    let host : Host Unit :=
      { record := fun _ _ => ()
        build := fun input _ => (.error (.unknownToolchain input), ())
        load := fun path _ => (.error (.noEntryPoint path), ())
        callMain := fun _ context _ => (context, ())
        callInit := fun _ _ => (0, ())
        callUpdate := fun _ _ _ => (0, ())
        wait := fun _ _ => (none, ()) }
    let session : Session Unit := ⟨.new ⟨"main"⟩ .zero, { context with exitCode := none }, ()⟩
    let edit : Notification := .event ⟨.modify, []⟩
    let result := run host.watched 2 (session.watchedBy (.new .standard)
      [.proceed, .deliver edit, .proceed, .proceed, .proceed, .proceed, .proceed, .proceed,
        .expire])
    result.2.world.rounds =
        [⟨[.buildBegan, .delivered edit, .buildEnded], [.consumed edit], true⟩] ∧
      result.2.world.tick = [.buildBegan, .buildEnded] :=
  ⟨rfl, rfl⟩

end Reloader

end LiveReload
