/-
**The calls of a tick, counted.**

The counters of a reloader only ever grow by what happened in the calls to its host: by the builds,
the failures and the swaps of an attempt, and by the invocation after it. So they can be told from
the calls, and what a tick adds to them from whether a build was due.

* `tally`: the counters that calls amount to;
* `Tallied`: what one tick calls and counts, and what it does to the context;
* `tick_tallied`: every tick counts truly.
-/
import LiveReload.Proofs.Reload.LastGood
import Mathlib.Algebra.BigOperators.Group.List.Basic
import Mathlib.Algebra.Order.Ring.Int

namespace LiveReload

variable {W : Type}

/-! ### What calls amount to -/

namespace HostCall

/-- The call is a build. -/
def isBuild : HostCall → Bool
  | build .. => true
  | _ => false

/-- The call is a build that fails. -/
def isFailedBuild : HostCall → Bool
  | build _ (.error _) => true
  | _ => false

/-- The call is a load that brings up a module with an entry point. -/
def bringsUp : HostCall → Bool
  | load _ (.ok module) => (EntryPoint.resolve module).isOk
  | _ => false

/-- The call is a load that fails, or whose module exports no entry point. -/
def isFailedLoad (call : HostCall) : Bool := call.isLoad && !call.bringsUp

/-- How many ticks of a context a call of a main function counts by itself. -/
def ticksInside : HostCall → Int
  | callMain _ given left => (left.tick : Int) - given.tick
  | _ => 0

end HostCall

/-- Counters are added one by one. -/
instance : Add ReloadCounts where
  add first second :=
    ⟨first.builds + second.builds, first.buildFailures + second.buildFailures,
      first.loadFailures + second.loadFailures, first.swaps + second.swaps,
      first.invocations + second.invocations⟩

theorem ReloadCounts.add_def (first second : ReloadCounts) :
    first + second =
      ⟨first.builds + second.builds, first.buildFailures + second.buildFailures,
        first.loadFailures + second.loadFailures, first.swaps + second.swaps,
        first.invocations + second.invocations⟩ := rfl

theorem ReloadCounts.add_assoc (first second third : ReloadCounts) :
    first + second + third = first + (second + third) := by
  simp only [add_def, Nat.add_assoc]

theorem ReloadCounts.zero_add (counts : ReloadCounts) : ⟨0, 0, 0, 0, 0⟩ + counts = counts := by
  simp only [add_def, Nat.zero_add]

/-- The counters that calls amount to. -/
def tally (calls : List HostCall) : ReloadCounts where
  builds := calls.countP HostCall.isBuild
  buildFailures := calls.countP HostCall.isFailedBuild
  loadFailures := calls.countP HostCall.isFailedLoad
  swaps := calls.countP HostCall.bringsUp
  invocations := calls.countP HostCall.isInvocation

theorem tally_append (calls more : List HostCall) :
    tally (calls ++ more) = tally calls + tally more := by
  simp only [tally, List.countP_append, ReloadCounts.add_def]

/-- The ticks of a context that the main functions among the calls count by themselves. -/
def ticksInside (calls : List HostCall) : Int := (calls.map HostCall.ticksInside).sum

theorem ticksInside_append (calls more : List HostCall) :
    ticksInside (calls ++ more) = ticksInside calls + ticksInside more := by
  simp only [ticksInside, List.map_append, List.sum_append]

/-- Calls that count for nothing. -/
theorem tally_of_uncounted {calls : List HostCall}
    (uncounted : ∀ call ∈ calls, call.isCounted = false) : tally calls = ⟨0, 0, 0, 0, 0⟩ := by
  induction calls with
  | nil => rfl
  | cons call rest ih =>
    have first : tally [call] = ⟨0, 0, 0, 0, 0⟩ := by
      have silent := uncounted call List.mem_cons_self
      cases call <;> first | rfl | cases silent
    rw [← List.singleton_append, tally_append, first,
      ih fun other member => uncounted other (List.mem_cons_of_mem _ member)]
    rfl

theorem tally_append_uncounted (calls : List HostCall) {more : List HostCall}
    (uncounted : ∀ call ∈ more, call.isCounted = false) : tally (calls ++ more) = tally calls := by
  rw [tally_append, tally_of_uncounted uncounted]
  rfl

/-- Calls that invoke nothing count no ticks. -/
theorem ticksInside_of_quiet {calls : List HostCall} (quiet : (tally calls).invocations = 0) :
    ticksInside calls = 0 := by
  refine List.sum_eq_zero fun number member => ?_
  obtain ⟨call, called, rfl⟩ := List.mem_map.mp member
  have silent := List.countP_eq_zero.mp quiet call called
  cases call <;> first | rfl | exact absurd rfl silent

/-- Calls bring something up exactly if they count a swap. -/
theorem any_bringsUp (calls : List HostCall) :
    calls.any HostCall.bringsUp = decide (0 < (tally calls).swaps) := by
  rw [Bool.eq_iff_iff, List.any_eq_true, decide_eq_true_eq]
  exact List.countP_pos_iff.symm

/-- Calls that invoke nothing come before calls that build nothing, so no build follows an
invocation. -/
theorem pairwise_of_built_first {first last : List HostCall}
    (quiet : (tally first).invocations = 0) (unbuilt : (tally last).builds = 0) :
    (first ++ last).Pairwise fun earlier later =>
      earlier.isInvocation = true → later.isBuild = false := by
  have silent := List.countP_eq_zero.mp quiet
  have builds := List.countP_eq_zero.mp unbuilt
  refine List.pairwise_append.mpr ⟨?_, ?_, ?_⟩
  · exact List.pairwise_of_forall_mem_list fun earlier here _ _ invoked =>
      absurd invoked (silent earlier here)
  · exact List.pairwise_of_forall_mem_list fun _ _ later here _ =>
      Bool.eq_false_iff.mpr (builds later here)
  · exact fun earlier here _ _ invoked => absurd invoked (silent earlier here)

namespace Reloader

/-! ### The calls before an invocation -/

/-- A module that loads counts as a swap if it has an entry point, and else as a failure. -/
theorem tally_loaded (input artifact path : Path) (module : Module) :
    tally [.build input (.ok artifact), .load path (.ok module)] =
      if (EntryPoint.resolve module).isOk then ⟨1, 0, 0, 1, 0⟩ else ⟨1, 0, 1, 0, 0⟩ := by
  cases resolve : EntryPoint.resolve module with
  | error error =>
    simp [tally, HostCall.isBuild, HostCall.isFailedBuild, HostCall.isFailedLoad,
      HostCall.bringsUp, HostCall.isInvocation, HostCall.isLoad, List.countP_cons, resolve,
      Except.isOk, Except.toBool]
  | ok entry =>
    simp [tally, HostCall.isBuild, HostCall.isFailedBuild, HostCall.isFailedLoad,
      HostCall.bringsUp, HostCall.isInvocation, HostCall.isLoad, List.countP_cons, resolve,
      Except.isOk, Except.toBool]

/-- Counters of one attempt if one is due, and else of none; `up` tells whether a generation came
up. -/
structure Attempts (due up : Bool) (counts : ReloadCounts) : Prop where
  builds : counts.builds = due.toNat
  parts : counts.builds = counts.buildFailures + counts.loadFailures + counts.swaps
  swaps : counts.swaps = up.toNat
  invocations : counts.invocations = 0

/-- What an attempt calls, and what its answer tells of the calls. -/
structure AttemptTallied (reloader : Reloader) (chronicle : Chronicle W)
    (answer : Except ReloadError Generation × ReloadCounts × Chronicle W)
    (made : List HostCall) : Prop where
  calls : answer.2.2.calls = chronicle.calls ++ made
  stats : answer.2.1 = reloader.stats + tally made
  counts : Attempts true answer.1.isOk (tally made)

theorem attempt_tallied (host : Host W) (reloader : Reloader) (chronicle : Chronicle W) :
    ∃ made, AttemptTallied reloader chronicle
      (attempt host.chronicled reloader chronicle) made := by
  have ends := attempt_ends host.chronicled reloader chronicle
  generalize attempt host.chronicled reloader chronicle = answer at ends
  cases ends with
  | @unbuilt error built build =>
    exact ⟨[.build reloader.input (.error error)], calls_of_build build, rfl, rfl, rfl, rfl, rfl⟩
  | @unloaded artifact built error loaded build load =>
    exact ⟨[.build reloader.input (.ok artifact), .load artifact (.error error)],
      calls_of_load build load, rfl, rfl, rfl, rfl, rfl⟩
  | @unresolved artifact built module loaded error build load resolve =>
    have counts := tally_loaded reloader.input artifact artifact module
    rw [resolve] at counts
    refine ⟨[.build reloader.input (.ok artifact), .load artifact (.ok module)],
      calls_of_load build load, ?_, ?_⟩
    · rw [counts]
      rfl
    · rw [counts]
      exact ⟨rfl, rfl, rfl, rfl⟩
  | @up artifact built module loaded entry build load resolve =>
    have counts := tally_loaded reloader.input artifact artifact module
    rw [resolve] at counts
    refine ⟨[.build reloader.input (.ok artifact), .load artifact (.ok module)],
      calls_of_load build load, ?_, ?_⟩
    · rw [counts]
      rfl
    · rw [counts]
      exact ⟨rfl, rfl, rfl, rfl⟩

/-- What the first part of a tick calls and counts, up to the invocation. -/
structure ReloadTallied (due : Bool) (before after : Session (Chronicle W)) (made : List HostCall)
    (up : Bool) : Prop where
  calls : after.world.calls = before.world.calls ++ made
  stats : after.reloader.stats = before.reloader.stats + tally made
  counts : Attempts due up (tally made)
  active : after.reloader.active.isSome = (before.reloader.active.isSome || up)
  done : after.reloader.due = false
  input : after.reloader.input = before.reloader.input

theorem reload_tallied (host : Host W) {session : Session (Chronicle W)}
    (done : session.reloader.due = false) :
    ∃ made up, ReloadTallied true session (reload host.chronicled session) made up := by
  obtain ⟨made, told⟩ := attempt_tallied host session.reloader session.world
  rcases result : attempt host.chronicled session.reloader session.world with
    ⟨error | generation, stats, world⟩
  · rw [result] at told
    have same : tally (made ++ [.record (failedRecord session.reloader.active error)]) =
        tally made := tally_append_uncounted made (by simp [HostCall.isCounted])
    rw [reload_of_error result]
    refine ⟨made ++ [.record (failedRecord session.reloader.active error)], false, ?_, ?_, ?_,
      (Bool.or_false _).symm, done, rfl⟩
    · rw [← List.append_assoc, ← told.calls]
      rfl
    · rw [same, ← told.stats]
    · rw [same]
      exact told.counts
  · rw [result] at told
    obtain ⟨begun, calls, silent⟩ :=
      calls_of_initialize? host world session.reloader.legacyState generation.entry
    have same : tally (made ++ (begun ++ [.record (loadedRecord generation)])) = tally made := by
      refine tally_append_uncounted made fun call member => ?_
      rcases List.mem_append.mp member with early | last
      · exact silent call early
      · rw [List.mem_singleton.mp last]
        rfl
    rw [reload_of_ok result]
    refine ⟨made ++ (begun ++ [.record (loadedRecord generation)]), true, ?_, ?_, ?_,
      (Bool.or_true _).symm, done, rfl⟩
    · simp only [Host.chronicled, Chronicle.note] at calls ⊢
      rw [calls, told.calls]
      simp only [List.append_assoc]
    · rw [same, ← told.stats]
    · rw [same]
      exact told.counts

theorem reloadIfDue_tallied (host : Host W) (session : Session (Chronicle W)) :
    ∃ made up, ReloadTallied session.reloader.due session
      (reloadIfDue host.chronicled session) made up := by
  unfold reloadIfDue
  by_cases due : (session.reloader.fresh || session.reloader.changed) = true
  · rw [if_pos due, show session.reloader.due = true from due]
    let begun : Session (Chronicle W) :=
      { session with reloader := { session.reloader with fresh := false, changed := false } }
    have settled : begun.reloader.due = false := rfl
    obtain ⟨made, up, told⟩ := reload_tallied host settled
    exact ⟨made, up, told.calls, told.stats, told.counts, told.active, told.done, told.input⟩
  · rw [if_neg due, show session.reloader.due = false from Bool.eq_false_iff.mpr due]
    exact ⟨[], false, (List.append_nil _).symm, rfl, ⟨rfl, rfl, rfl, rfl⟩,
      (Bool.or_false _).symm, Bool.eq_false_iff.mpr due, rfl⟩

/-! ### The invocation -/

/-- What the invocation calls and counts, and what it does to the context. -/
structure InvokeTallied (before after : Session (Chronicle W)) (made : List HostCall) : Prop where
  calls : after.world.calls = before.world.calls ++ made
  stats : after.reloader.stats = before.reloader.stats + tally made
  counts : tally made = ⟨0, 0, 0, 0, before.reloader.active.isSome.toNat⟩
  active : after.reloader.active = before.reloader.active
  done : after.reloader.due = before.reloader.due
  input : after.reloader.input = before.reloader.input
  tick : (after.context.tick : Int) = before.context.tick + ticksInside made

theorem invoke_tallied (host : Host W) (session : Session (Chronicle W)) :
    ∃ made, InvokeTallied session (invoke host.chronicled session).2 made := by
  cases active : session.reloader.active with
  | none =>
    rw [invoke_of_none active]
    refine ⟨[], (List.append_nil _).symm, rfl, ?_, rfl, rfl, rfl, (Int.add_zero _).symm⟩
    rw [active]
    rfl
  | some generation =>
    cases entry : generation.entry with
    | main address =>
      rw [invoke_of_main active entry]
      let answer := host.callMain address session.context session.world.world
      refine ⟨[.callMain address session.context answer.1], rfl, rfl, ?_, rfl, rfl, rfl, ?_⟩
      · rw [active]
        rfl
      · show (answer.1.tick : Int) = _
        simp only [ticksInside, HostCall.ticksInside, List.map_cons, List.map_nil,
          List.sum_cons, List.sum_nil]
        omega
    | legacy init update =>
      rw [invoke_of_legacy active entry]
      let state := session.reloader.legacyState.getD 0
      let answer := host.callUpdate update state session.world.world
      refine ⟨[.callUpdate update state answer.1], rfl, rfl, ?_, rfl, rfl, rfl,
        (Int.add_zero _).symm⟩
      rw [active]
      rfl

/-! ### The tick -/

/-- What one tick calls and counts, and what it does to the context. -/
structure Tallied (before after : Session W) (made : List HostCall) : Prop where
  stats : after.reloader.stats = before.reloader.stats + tally made
  builds : (tally made).builds = before.reloader.due.toNat
  parts : (tally made).builds =
    (tally made).buildFailures + (tally made).loadFailures + (tally made).swaps
  active : after.reloader.active.isSome =
    (before.reloader.active.isSome || made.any HostCall.bringsUp)
  invocations : (tally made).invocations = after.reloader.active.isSome.toNat
  /-- What is built is built before what is active is called. -/
  order : made.Pairwise fun earlier later => earlier.isInvocation = true → later.isBuild = false
  done : after.reloader.due = false
  input : after.reloader.input = before.reloader.input
  tick : (after.context.tick : Int) = before.context.tick + 1 + ticksInside made
  tmp : after.context.tmp = .empty

theorem tick_noted (host : Host W) (session : Session (Chronicle W)) :
    ∃ made, (tick host.chronicled session).2.world.calls = session.world.calls ++ made ∧
      Tallied session (tick host.chronicled session).2 made := by
  obtain ⟨made, up, told⟩ := reloadIfDue_tallied host session
  obtain ⟨reloaded, wakeDelay, begun⟩ := atCall_context host.chronicled session
  obtain ⟨more, called⟩ := invoke_tallied host (atCall host.chronicled session)
  -- Builds, failures and swaps all come before the call to the module, and nothing else after it.
  have whole : tally (made ++ more) = tally made + tally more := tally_append made more
  have active : (invoke host.chronicled (atCall host.chronicled session)).2.reloader.active =
      (reloadIfDue host.chronicled session).reloader.active := called.active
  rw [called.counts] at whole
  have swaps : made.any HostCall.bringsUp = up := by
    rw [any_bringsUp, told.counts.swaps]
    cases up <;> rfl
  have quiet : more.any HostCall.bringsUp = false := by
    rw [any_bringsUp, called.counts]
    rfl
  rw [tick_eq]
  refine ⟨made ++ more, ?_, ?_, ?_, ?_, ?_, ?_, ?_, ?_, ?_, ?_, rfl⟩
  · rw [← List.append_assoc, ← told.calls]
    exact called.calls
  · rw [tally_append, ← ReloadCounts.add_assoc, ← told.stats]
    exact called.stats
  · rw [whole]
    exact told.counts.builds
  · rw [whole]
    exact told.counts.parts
  · show (invoke host.chronicled (atCall host.chronicled session)).2.reloader.active.isSome = _
    rw [active, told.active, List.any_append, swaps, quiet, Bool.or_false]
  · rw [whole]
    show (tally made).invocations + _ =
      (invoke host.chronicled (atCall host.chronicled session)).2.reloader.active.isSome.toNat
    rw [told.counts.invocations, active, Nat.zero_add]
    rfl
  · exact pairwise_of_built_first told.counts.invocations
      (congrArg ReloadCounts.builds called.counts)
  · show (invoke host.chronicled (atCall host.chronicled session)).2.reloader.due = false
    rw [called.done]
    exact told.done
  · exact called.input.trans told.input
  · have counted := called.tick
    rw [begun] at counted
    show (((invoke host.chronicled (atCall host.chronicled session)).2.context.tick + 1 : Nat) :
      Int) = _
    rw [Int.natCast_add, counted, ticksInside_append, ticksInside_of_quiet told.counts.invocations]
    show (session.context.tick : Int) + _ + 1 = _
    omega

/-- **Every tick counts truly.** -/
theorem tick_tallied (host : Host W) (session : Session W) :
    Tallied session (tick host session).2 (tickCalls host session) := by
  obtain ⟨made, calls, told⟩ := tick_noted host session.unwritten
  have same : made = tickCalls host session := (calls.trans (List.nil_append made)).symm
  have plain : (tick host session).2 =
      (tick host.chronicled session.unwritten).2.map Chronicle.world :=
    congrArg Prod.snd (tick_covers host.chronicled_covers session.unwritten).symm
  rw [plain, ← same]
  exact ⟨told.stats, told.builds, told.parts, told.active, told.invocations, told.order, told.done,
    told.input, told.tick, told.tmp⟩

end Reloader

end LiveReload
