/-
**A failed reload is invisible to the module.**

A tick in which the due reload fails is compared with the same tick when no reload is due. The
attempt comes before the tick is opened and works on the session that the invocation is then made
from, so the comparison is of all that the attempt leaves behind, at each of the three places where
it can fail.

* `Session.settled`: the session with no reload due;
* `Host.Screens`: the part of the world that modules see is not the one that builds, loads and
  records change;
* `atCall_of_error`: at the call, the two ticks differ in the counters and behind the screen;
* `performAll_failed_unseen`: after every history the two ticks make the same invocation, and leave
  the same context, generation, legacy state and outcome.
-/
import LiveReload.Proofs.Reload.LastGood
import LiveReload.Reload.Rehearsal

namespace LiveReload

variable {V W M : Type}

/-- A session with no reload due. -/
def Session.settled (session : Session W) : Session W :=
  { session with reloader := { session.reloader with fresh := false, changed := false } }

/-- `seen` is what modules see of the world: builds, loads and records leave it as it is, and what
calls into modules answer and make of it depends on nothing else. -/
structure Host.Screens (host : Host W) (seen : W → M) : Prop where
  record : ∀ record world, seen (host.record record world) = seen world
  build : ∀ input world, seen (host.build input world).2 = seen world
  load : ∀ path world, seen (host.load path world).2 = seen world
  callMain : ∀ address context world other, seen world = seen other →
    Prod.map id seen (host.callMain address context world) =
      Prod.map id seen (host.callMain address context other)
  callUpdate : ∀ address state world other, seen world = seen other →
    Prod.map id seen (host.callUpdate address state world) =
      Prod.map id seen (host.callUpdate address state other)

/-- The call runs code of a module. -/
def HostCall.entersModule : HostCall → Bool
  | callMain .. => true
  | callInit .. => true
  | callUpdate .. => true
  | _ => false

namespace Reloader

/-- A reloader with a failed attempt counted where it failed. -/
def countFailure (error : ReloadError) (reloader : Reloader) : Reloader :=
  let stats := { reloader.stats with builds := reloader.stats.builds + 1 }
  match error with
  | .build _ =>
    { reloader with stats := { stats with buildFailures := stats.buildFailures + 1 } }
  | .load _ => { reloader with stats := { stats with loadFailures := stats.loadFailures + 1 } }

theorem countFailure_countInvocation (error : ReloadError) (reloader : Reloader) :
    (reloader.countFailure error).countInvocation =
      reloader.countInvocation.countFailure error := by
  cases error <;> rfl

@[simp] theorem countFailure_active (error : ReloadError) (reloader : Reloader) :
    (reloader.countFailure error).active = reloader.active := by
  cases error <;> rfl

@[simp] theorem countFailure_legacyState (error : ReloadError) (reloader : Reloader) :
    (reloader.countFailure error).legacyState = reloader.legacyState := by
  cases error <;> rfl

@[simp] theorem countFailure_defaultWake (error : ReloadError) (reloader : Reloader) :
    (reloader.countFailure error).defaultWake = reloader.defaultWake := by
  cases error <;> rfl

/-! ### What a failed attempt leaves behind -/

theorem countFailure_of_error {host : Host W} {reloader : Reloader} {world after : W}
    {error : ReloadError} {stats : ReloadCounts}
    (failed : attempt host reloader world = (.error error, stats, after)) :
    { reloader with stats } = reloader.countFailure error := by
  have ends := attempt_ends host reloader world
  rw [failed] at ends
  cases ends <;> rfl

/-- An attempt runs no code of a module. -/
theorem calls_of_attempt (host : Host W) (reloader : Reloader) (chronicle : Chronicle W) :
    ∃ made, (attempt host.chronicled reloader chronicle).2.2.calls = chronicle.calls ++ made ∧
      ∀ call ∈ made, call.entersModule = false := by
  have ends := attempt_ends host.chronicled reloader chronicle
  generalize attempt host.chronicled reloader chronicle = answer at ends
  cases ends with
  | unbuilt build =>
    obtain ⟨answered, rfl⟩ := Prod.mk.inj build
    exact ⟨_, rfl, by simp [HostCall.entersModule]⟩
  | unloaded build load | unresolved build load | up build load =>
    obtain ⟨answered, rfl⟩ := Prod.mk.inj build
    obtain ⟨loaded, rfl⟩ := Prod.mk.inj load
    exact ⟨_, List.append_assoc _ _ _, by simp [HostCall.entersModule]⟩

/-- At the call after a failed reload: the counters are as they were but for the failure, the
context is what it is without a reload, and modules see no change of the world. -/
theorem atCall_of_error {host : Host W} {seen : W → M} (screens : host.Screens seen)
    {session : Session (Chronicle W)} {error : ReloadError}
    (due : (session.reloader.fresh || session.reloader.changed) = true)
    (failed : (attempt host.chronicled session.reloader session.world).1 = .error error) :
    let called := atCall host.chronicled session
    called.reloader = session.settled.reloader.countFailure error ∧
      called.context = session.context.openTick session.reloader.defaultWake ∧
      seen called.world.world = seen session.world.world ∧
      ∃ tried, called.world.calls = session.world.calls ++ tried ∧
        ∀ call ∈ tried, call.entersModule = false := by
  rcases result : attempt host.chronicled session.settled.reloader session.world with
    ⟨answer, stats, after⟩
  obtain rfl : answer = .error error := by
    rw [← failed]
    exact (congrArg Prod.fst result).symm
  obtain ⟨tried, calls, quiet⟩ :=
    calls_of_attempt host session.settled.reloader session.world
  have unseen : seen after.world = seen session.world.world := by
    have same := attempt_leaves host.chronicled (fun chronicle => seen chronicle.world)
      (fun input chronicle => screens.build input chronicle.world)
      (fun path chronicle => screens.load path chronicle.world)
      session.settled.reloader session.world
    rwa [result] at same
  rw [result] at calls
  have reloaded : reloadIfDue host.chronicled session =
      { session.settled with
        reloader := session.settled.reloader.countFailure error
        world := host.chronicled.record
          (failedRecord session.settled.reloader.active error) after } := by
    rw [← countFailure_of_error result]
    unfold reloadIfDue
    rw [if_pos due]
    have failed : attempt host.chronicled session.settled.reloader session.settled.world =
        _ := result
    exact reload_of_error failed
  simp only [atCall, reloaded, countFailure_defaultWake]
  refine ⟨trivial, rfl, (screens.record _ _).trans unseen,
    tried ++ [.record (failedRecord session.settled.reloader.active error)], ?_, ?_⟩
  · show after.calls ++ _ = _
    rw [calls, List.append_assoc]
  · intro call member
    rcases List.mem_append.mp member with early | last
    · exact quiet call early
    · rw [List.mem_singleton.mp last]
      rfl

/-! ### Invocations that cannot be told apart -/

/-- The same invocation in two worlds that modules see as one: it answers alike and leaves them
alike. -/
theorem invoke_alike {host : Host W} {seen : W → M} (screens : host.Screens seen)
    {session other : Session (Chronicle W)} {error : ReloadError}
    (reloader : session.reloader = other.reloader.countFailure error)
    (context : session.context = other.context)
    (same : seen session.world.world = seen other.world.world) :
    let first := invoke host.chronicled session
    let second := invoke host.chronicled other
    first.1 = second.1 ∧
      first.2.reloader = second.2.reloader.countFailure error ∧
      first.2.context = second.2.context ∧
      seen first.2.world.world = seen second.2.world.world ∧
      ∃ invoked, first.2.world.calls = session.world.calls ++ invoked ∧
        second.2.world.calls = other.world.calls ++ invoked ∧
        ∀ address given left, .callMain address given left ∈ invoked →
          given = other.context := by
  have active : session.reloader.active = other.reloader.active := by
    rw [reloader, countFailure_active]
  cases loaded : other.reloader.active with
  | none =>
    rw [invoke_of_none loaded, invoke_of_none (active.trans loaded)]
    exact ⟨rfl, reloader, context, same, [], (List.append_nil _).symm, (List.append_nil _).symm,
      by simp⟩
  | some generation =>
    cases entry : generation.entry with
    | main address =>
      rw [invoke_of_main loaded entry, invoke_of_main (active.trans loaded) entry]
      have alike := screens.callMain address other.context _ _ same
      obtain ⟨left, seenAfter⟩ := Prod.mk.inj alike
      simp only [Host.chronicled, Chronicle.note, context]
      refine ⟨trivial, ?_, left, seenAfter, _, rfl, ?_, ?_⟩
      · rw [reloader, countFailure_countInvocation]
      · rw [show (host.callMain address other.context session.world.world).1 = _ from left]
        rfl
      · intro called given left member
        cases List.mem_singleton.mp member
        rfl
    | legacy init update =>
      rw [invoke_of_legacy loaded entry, invoke_of_legacy (active.trans loaded) entry]
      have state : session.reloader.legacyState = other.reloader.legacyState := by
        rw [reloader, countFailure_legacyState]
      have alike := screens.callUpdate update (other.reloader.legacyState.getD 0) _ _ same
      obtain ⟨answer, seenAfter⟩ := Prod.mk.inj alike
      simp only [Host.chronicled, Chronicle.note, state]
      refine ⟨congrArg exitCode answer, ?_, context, seenAfter, _, rfl, ?_, by simp⟩
      · rw [reloader, countFailure_countInvocation]
      · rw [show (host.callUpdate update _ session.world.world).1 = _ from answer]
        rfl

/-- **A failed reload is invisible to the module.** After any reports and ticks on a fresh reloader
and context, let the next tick be due to reload and its attempt fail. Compared with the tick of the
same session with no reload due: both make the same invocation, of the entry point that was active
before, with the same answer; a main function is given the same context with the flag down; and what
follows the tick, the context, the generation, the legacy state and all that modules see of the
world are the same. The attempt itself runs no code of a module, and only it and its failure are
counted. -/
theorem performAll_failed_unseen (host : Host W) {seen : W → M} (screens : host.Screens seen)
    (input : Path) (wake : Span) (args : List String) (seed : UInt64) (output : Output)
    (supply : ChunkSupply) (world : W) (steps : List LoopStep) :
    let fresh : Session W := ⟨.new input wake, .new args seed output supply, world⟩
    let session := performAll host.chronicled fresh.unwritten steps
    session.map Chronicle.world = performAll host fresh steps ∧
      ∀ error, (session.reloader.fresh || session.reloader.changed) = true →
        (attempt host.chronicled session.reloader session.world).1 = .error error →
        let failed := tick host.chronicled session
        let quiet := tick host.chronicled session.settled
        ∃ tried invoked,
          failed.2.world.calls = session.world.calls ++ tried ++ invoked ∧
            quiet.2.world.calls = session.world.calls ++ invoked ∧
            InvokedOnce session.reloader.active invoked ∧
            (∀ call ∈ tried, call.entersModule = false) ∧
            (∀ address given left, .callMain address given left ∈ invoked →
              given.reloaded = false) ∧
            failed.1 = quiet.1 ∧
            failed.2.context = quiet.2.context ∧
            failed.2.reloader = quiet.2.reloader.countFailure error ∧
            seen failed.2.world.world = seen quiet.2.world.world := by
  intro fresh session
  refine ⟨performAll_plain host fresh steps, fun error due failing => ?_⟩
  have down : session.context.reloaded = false :=
    performAll_keeps (fun session => session.context.reloaded = false)
      (fun session low step => by
        cases step with
        | notify => exact low
        | tick => rfl)
      (rfl : fresh.unwritten.context.reloaded = false) steps
  obtain ⟨counted, given, unseen, tried, calls, quiet⟩ := atCall_of_error screens due failing
  have counts : (atCall host.chronicled session).reloader =
      (atCall host.chronicled session.settled).reloader.countFailure error := counted
  obtain ⟨answers, reloaders, contexts, seenAfter, invoked, first, second, passed⟩ :=
    invoke_alike screens counts given unseen
  obtain ⟨made, again, _, once⟩ :=
    invoke_calls host (atCall host.chronicled session.settled)
  obtain rfl : made = invoked := List.append_cancel_left (again.symm.trans second)
  simp only [tick_eq]
  rw [answers, contexts]
  refine ⟨tried, made, ?_, second, once, quiet, ?_, rfl, rfl, reloaders, seenAfter⟩
  · rw [← calls]
    exact first
  · intro address context left member
    rw [passed address context left member]
    exact down

end Reloader

/-! ### A rehearsal -/

namespace Rehearsal

/-- What modules see of a rehearsal: what is laid down for them, what they did, and whether they
ended the host. -/
def stageOf (stage : Rehearsal) : Rehearsal :=
  { blank with
    mains := stage.mains, inits := stage.inits, updates := stage.updates, calls := stage.calls,
    ended := stage.ended }

theorem stageOf_eq_iff {stage other : Rehearsal} :
    stageOf stage = stageOf other ↔
      stage.mains = other.mains ∧ stage.inits = other.inits ∧ stage.updates = other.updates ∧
        stage.calls = other.calls ∧ stage.ended = other.ended := by
  simp [stageOf]

theorem stageOf_note (record : Record) (stage : Rehearsal) :
    stageOf (stage.note record) = stageOf stage := by
  unfold note
  split <;> rfl

theorem stageOf_noteAll (records : List Record) (stage : Rehearsal) :
    stageOf (stage.noteAll records) = stageOf stage := by
  induction records generalizing stage with
  | nil => rfl
  | cons record records ih => exact (ih _).trans (stageOf_note record stage)

theorem stageOf_fail (records : List Record) (stage : Rehearsal) :
    stageOf (stage.fail records) =
      { stageOf stage with ended := some ModuleFailure.exitCode } := by
  rw [← stageOf_noteAll records stage]
  rfl

/-- A failure of the module, or none, leaves alike what modules see alike. -/
theorem stageOf_settle (crash : Option Crash) (source : String) (context : Context)
    {stage other : Rehearsal} (same : stageOf stage = stageOf other) :
    Prod.map id stageOf (settle crash source context stage) =
      Prod.map id stageOf (settle crash source context other) := by
  cases crash with
  | none => exact Prod.ext rfl same
  | some crash =>
    refine Prod.ext rfl ?_
    show stageOf (fail _ stage) = stageOf (fail _ other)
    rw [stageOf_fail, stageOf_fail, same]

theorem host_screens : host.Screens stageOf where
  record := stageOf_note
  build _ _ := rfl
  load path stage := by
    show stageOf (load path stage).2 = stageOf stage
    unfold load
    split <;> rfl
  callMain address context stage other same := by
    obtain ⟨mains, inits, updates, calls, ended⟩ := stageOf_eq_iff.mp same
    show Prod.map id stageOf (callMain address context stage) =
      Prod.map id stageOf (callMain address context other)
    unfold callMain
    by_cases finished : other.ended.isSome = true
    · rw [if_pos finished, if_pos (ended ▸ finished)]
      exact Prod.ext rfl same
    · rw [if_neg finished, if_neg (ended ▸ finished), mains]
      split
      · apply stageOf_settle
        rw [stageOf_noteAll, stageOf_noteAll, same]
      · apply stageOf_settle
        rw [stageOf_noteAll, stageOf_noteAll, stageOf_eq_iff]
        exact ⟨rfl, inits, updates, congrArg (· ++ _) calls, ended⟩
      · exact Prod.ext rfl same
  callUpdate address state stage other same := by
    obtain ⟨mains, inits, updates, calls, ended⟩ := stageOf_eq_iff.mp same
    show Prod.map id stageOf (callUpdate address state stage) =
      Prod.map id stageOf (callUpdate address state other)
    unfold callUpdate
    by_cases finished : other.ended.isSome = true
    · rw [if_pos finished, if_pos (ended ▸ finished)]
      exact Prod.ext rfl same
    · rw [if_neg finished, if_neg (ended ▸ finished), updates]
      split
      · rename_i name _
        have noted : stageOf (noteCall (.update name state)
              { stage with updates := (takeNext name other.updates).2 }) =
            stageOf (noteCall (.update name state)
              { other with updates := (takeNext name other.updates).2 }) :=
          stageOf_eq_iff.mpr ⟨mains, inits, rfl, congrArg (· ++ _) calls, ended⟩
        dsimp only
        split
        · exact Prod.ext rfl noted
        · exact Prod.ext rfl noted
        · refine Prod.ext rfl ?_
          show stageOf (fail _ _) = stageOf (fail _ _)
          rw [stageOf_fail, stageOf_fail, noted]
      · exact Prod.ext rfl same

/-- A rehearsal of a module with an update function in which the second build fails. -/
def failedRebuild : Rehearsal :=
  { blank with
    builds := [some (.ok ⟨"first"⟩), some (.error (.unknownToolchain ⟨"app"⟩))]
    table := .ofLegacy ⟨5, by decide⟩ ⟨8, by decide⟩
    updates := [("u", [.ok 0, .ok 4])] }

end Rehearsal

/-- The tick with the build that fails ends the run with the code that the update asks for, as it
would have without the build. -/
theorem Reloader.performAll_failed_unseen_rehearsed :
    let fresh : Session Rehearsal :=
      ⟨.new ⟨"app"⟩ (.ofMillis 100), .new [] 0 (.writing .unlimited) .spaced, .failedRebuild⟩
    let session := performAll Rehearsal.host.chronicled fresh.unwritten [.tick, .notify]
    let failed := tick Rehearsal.host.chronicled session
    let quiet := tick Rehearsal.host.chronicled session.settled
    Rehearsal.host.Screens Rehearsal.stageOf ∧
      (session.reloader.fresh || session.reloader.changed) = true ∧
      (attempt Rehearsal.host.chronicled session.reloader session.world).1 =
        .error (.build (.unknownToolchain ⟨"app"⟩)) ∧
      quiet.1 = .exit 3 ∧ failed.1 = .exit 3 ∧ failed.2.context = quiet.2.context ∧
      failed.2.reloader =
        quiet.2.reloader.countFailure (.build (.unknownToolchain ⟨"app"⟩)) := by
  intro fresh session failed quiet
  have due : (session.reloader.fresh || session.reloader.changed) = true := by decide +kernel
  have failing : (attempt Rehearsal.host.chronicled session.reloader session.world).1 =
      .error (.build (.unknownToolchain ⟨"app"⟩)) := rfl
  have told : quiet.1 = .exit 3 := by decide +kernel
  obtain ⟨_, unseen⟩ := performAll_failed_unseen Rehearsal.host Rehearsal.host_screens ⟨"app"⟩
    (.ofMillis 100) [] 0 (.writing .unlimited) .spaced .failedRebuild [.tick, .notify]
  obtain ⟨_, _, _, _, _, _, _, outcome, context, reloader, _⟩ := unseen _ due failing
  exact ⟨Rehearsal.host_screens, due, failing, told, outcome.trans told, context, reloader⟩

end LiveReload
