/-
**What a run comes to.**

A run that ends with an exit code takes some laps, each a tick after which the run goes on and a
wait that answers, and then one more tick, which asks for the exit. The laps fix everything that the
host is asked for: the calls of the ticks in order, between them the waits with the delays that the
ticks asked for, and nothing after the last tick.

* `Lap`, `Laps`: ticks after which the run goes on, each with the wait that follows it;
* `laps_of_run`: a run that ends with a code is such laps with one tick more;
* `Laps.run_written`, `Laps.run_cut`: the calls of this run, and a run that is cut before its end;
* `Laps.builds`: what each tick builds, told from what the wait before it answered;
* `run_accounts`: ticks, waits and builds of a run, matched one to one.
-/
import LiveReload.Proofs.Reload.Tally
import LiveReload.Reload.Rehearsal

namespace LiveReload

variable {W : Type}

/-- A tick after which a run goes on, with the wait that follows it. -/
structure Lap where
  /-- The calls of the tick. -/
  ticked : List HostCall
  /-- How long to wait, as the tick asked for. -/
  delay : Span
  /-- What the wait answered. -/
  changed : Bool

/-- The calls that follow a wait: a change is recorded. -/
def noticed (input : Path) (changed : Bool) : List HostCall :=
  if changed then [.record (Reloader.changeRecord input)] else []

/-- The calls of a lap: those of the tick, the wait, and the record of a change. -/
def Lap.calls (input : Path) (lap : Lap) : List HostCall :=
  lap.ticked ++ .wait lap.delay (some lap.changed) :: noticed input lap.changed

/-- A lap waits once. -/
theorem Lap.waits (lap : Lap) (input : Path)
    (quiet : lap.ticked.filterMap HostCall.waited = []) :
    (lap.calls input).filterMap HostCall.waited = [(lap.delay, some lap.changed)] := by
  unfold calls noticed
  rw [List.filterMap_append, quiet]
  cases lap.changed <;> rfl

namespace Reloader

/-- The run takes these laps from the first session to the last: each tick but that of the last
session asks to go on, and the wait after it answers. -/
inductive Laps (host : Host W) : Session W → List Lap → Session W → Prop
  | nil (session : Session W) : Laps host session [] session
  | cons {session ticked last : Session W} {delay : Span} {changed : Bool} {waited : W}
      {laps : List Lap} (ticks : tick host session = (.wait delay, ticked))
      (waits : host.wait delay ticked.world = (some changed, waited))
      (rest : Laps host (afterWait host changed { ticked with world := waited }) laps last) :
      Laps host session (⟨tickCalls host session, delay, changed⟩ :: laps) last

/-- A run that ends with a code is laps, and a tick that asks for the exit with this code. -/
theorem laps_of_run {host : Host W} {ticks : Nat} {session final : Session W} {code : Int}
    (returned : run host ticks session = (some (.exit code), final)) :
    ∃ laps last ticked, Laps host session laps last ∧ laps.length < ticks ∧
      tick host last = (.exit code, ticked) ∧
      final = { ticked with
        world := host.record (exitRecord code ticked.context.tick ticked.reloader.stats.swaps)
          ticked.world } := by
  induction ticks generalizing session with
  | zero => cases returned
  | succ ticks ih =>
    unfold run at returned
    split at returned
    · next exits =>
      cases returned
      exact ⟨[], session, _, .nil session, Nat.succ_pos ticks, exits, rfl⟩
    · next delay ticked went =>
      split at returned
      · cases returned
      · next changed waited waits =>
        obtain ⟨laps, last, exited, rest, few, exits, done⟩ := ih returned
        exact ⟨_, last, exited, .cons went waits rest, Nat.succ_lt_succ few, exits, done⟩

section Laps

variable {host : Host W} {session last ticked : Session W} {laps : List Lap} {code : Int}

/-- What follows a wait, with the calls noted. -/
theorem afterWait_written (host : Host W) (changed : Bool) (session : Session W)
    (earlier : List HostCall) :
    afterWait host.chronicled changed (session.written earlier) =
      (afterWait host changed session).written
        (earlier ++ noticed session.reloader.input changed) := by
  cases changed with
  | true => rfl
  | false =>
    unfold noticed
    rw [if_neg Bool.false_ne_true, List.append_nil]
    rfl

theorem afterWait_input (host : Host W) (changed : Bool) (session : Session W) :
    (afterWait host changed session).reloader.input = session.reloader.input := by
  cases changed <;> rfl

/-- The calls of a run are those of its laps, then those of the tick that asks for the exit and
the record of it. -/
theorem Laps.run_written (made : Laps host session laps last)
    (exits : tick host last = (.exit code, ticked)) (earlier : List HostCall) {ticks : Nat}
    (enough : laps.length < ticks) :
    let record := exitRecord code ticked.context.tick ticked.reloader.stats.swaps
    run host.chronicled ticks (session.written earlier) =
      (some (.exit code),
        { ticked with world := host.record record ticked.world }.written
          (earlier ++ laps.flatMap (Lap.calls session.reloader.input) ++ tickCalls host last ++
            [HostCall.record record])) := by
  induction made generalizing earlier ticks with
  | nil session =>
    obtain ⟨ticks, rfl⟩ := Nat.exists_eq_succ_of_ne_zero (Nat.ne_of_gt enough)
    unfold run
    rw [tick_written, exits]
    simp only [List.flatMap_nil, List.append_nil]
    rfl
  | @cons session went last delay changed waited laps went_on waits rest ih =>
    obtain ⟨ticks, rfl⟩ := Nat.exists_eq_succ_of_ne_zero (Nat.ne_of_gt (Nat.zero_lt_of_lt enough))
    have kept : went.reloader.input = session.reloader.input := by
      have same := (tick_tallied host session).input
      rw [went_on] at same
      exact same
    have input : (afterWait host changed { went with world := waited }).reloader.input =
        session.reloader.input := (afterWait_input host changed _).trans kept
    have later := ih exits
      (earlier ++ Lap.calls session.reloader.input ⟨tickCalls host session, delay, changed⟩)
      (Nat.lt_of_succ_lt_succ enough)
    rw [input] at later
    let called := earlier ++ tickCalls host session
    have told : host.chronicled.wait delay (went.written called).world =
        (some changed, ⟨waited, called ++ [.wait delay (some changed)]⟩) := by
      simp only [Host.chronicled, Session.written, waits]
      rfl
    unfold run
    rw [tick_written, went_on]
    dsimp only
    rw [told]
    dsimp only
    refine Eq.trans (congrArg (run host.chronicled ticks) ?_) (later.trans ?_)
    · refine (afterWait_written host changed { went with world := waited } _).trans ?_
      simp only [kept, called, Lap.calls, List.append_assoc, List.singleton_append]
    · simp only [List.flatMap_cons, List.append_assoc]

/-- A run that is cut before the last tick has no answer. -/
theorem Laps.run_cut (made : Laps host session laps last) {ticks : Nat}
    (few : ticks ≤ laps.length) : (run host ticks session).1 = none := by
  induction made generalizing ticks with
  | nil session =>
    rw [Nat.le_zero.mp few]
    rfl
  | cons went waits rest ih =>
    cases ticks with
    | zero => rfl
    | succ ticks =>
      unfold run
      simp only [went, waits]
      exact ih (Nat.le_of_succ_le_succ few)

/-- The calls of each lap are those of a tick. -/
theorem Laps.exists_tick (made : Laps host session laps last) :
    ∀ lap ∈ laps, ∃ begun, lap.ticked = tickCalls host begun := by
  induction made with
  | nil session => exact fun lap member => nomatch member
  | @cons session went last delay changed waited laps went_on waits rest ih =>
    intro lap member
    rcases List.mem_cons.mp member with rfl | later
    · exact ⟨session, rfl⟩
    · exact ih lap later

/-- A lap leaves a build due exactly if its wait told of a change. -/
theorem afterWait_due {delay : Span} {waited : W} (changed : Bool)
    (went : tick host session = (.wait delay, ticked)) :
    (afterWait host changed { ticked with world := waited }).reloader.due = changed := by
  cases changed with
  | true => exact Bool.or_true _
  | false =>
    have done := (tick_tallied host session).done
    rw [went] at done
    exact done

theorem afterWait_stats (host : Host W) (changed : Bool) (session : Session W) :
    (afterWait host changed session).reloader.stats = session.reloader.stats := by
  cases changed <;> rfl

/-- Laps count what their calls amount to. -/
theorem Laps.stats (made : Laps host session laps last) :
    last.reloader.stats = session.reloader.stats + tally (laps.flatMap Lap.ticked) := by
  induction made with
  | nil session => rfl
  | @cons session went last delay changed waited laps went_on waits rest ih =>
    have counted := (tick_tallied host session).stats
    rw [went_on] at counted
    rw [ih, afterWait_stats, List.flatMap_cons, tally_append, ← ReloadCounts.add_assoc]
    exact congrArg (· + _) counted

/-- Each tick builds what was due: the first as the session stands, and each of the others what the
wait before it told. -/
theorem Laps.builds (made : Laps host session laps last) :
    (laps.map Lap.ticked ++ [tickCalls host last]).map (List.countP HostCall.isBuild) =
      session.reloader.due.toNat :: laps.map fun lap => lap.changed.toNat := by
  induction made with
  | nil session => exact congrArg (fun count => [count]) (tick_tallied host session).builds
  | @cons session went last delay changed waited laps went_on waits rest ih =>
    rw [List.map_cons, List.cons_append, List.map_cons, List.map_cons, ih, afterWait_due _ went_on]
    exact congrArg (fun count => count :: _) (tick_tallied host session).builds

/-- The waits of laps, with their delays and answers. -/
theorem Laps.waits (made : Laps host session laps last) (input : Path) :
    (laps.flatMap (Lap.calls input)).filterMap HostCall.waited =
      laps.map fun lap => (lap.delay, some lap.changed) := by
  induction made with
  | nil session => rfl
  | @cons session went last delay changed waited laps went_on waits rest ih =>
    rw [List.flatMap_cons, List.filterMap_append, ih,
      Lap.waits _ input (tickCalls_unwaited host session)]
    rfl

/-- A run counts what the calls of its ticks amount to. -/
theorem Laps.counted (made : Laps host session laps last)
    (exits : tick host last = (.exit code, ticked)) :
    ticked.reloader.stats = session.reloader.stats +
      tally (laps.map Lap.ticked ++ [tickCalls host last]).flatten := by
  have closing := (tick_tallied host last).stats
  rw [exits, made.stats, ReloadCounts.add_assoc, ← tally_append] at closing
  rw [List.flatten_append, ← List.flatMap_def, List.flatten_singleton]
  exact closing

end Laps

/-- The counted calls of laps are those of their ticks. -/
theorem tally_laps (input : Path) (laps : List Lap) :
    tally (laps.flatMap (Lap.calls input)) = tally (laps.flatMap Lap.ticked) := by
  induction laps with
  | nil => rfl
  | cons lap rest ih =>
    have uncounted : ∀ call ∈ HostCall.wait lap.delay (some lap.changed) ::
        noticed input lap.changed, call.isCounted = false := by
      unfold noticed
      cases lap.changed <;> simp [HostCall.isCounted]
    rw [List.flatMap_cons, List.flatMap_cons, tally_append, tally_append, ih, Lap.calls,
      tally_append_uncounted _ uncounted]

/-- The counted calls of a run are those of its ticks. -/
theorem tally_run (input : Path) (laps : List Lap) (closing : List HostCall) (record : Record) :
    tally (laps.flatMap (Lap.calls input) ++ closing ++ [.record record]) =
      tally (laps.map Lap.ticked ++ [closing]).flatten := by
  rw [tally_append_uncounted _ (by simp [HostCall.isCounted]), tally_append, tally_laps,
    List.flatten_append, ← List.flatMap_def, List.flatten_singleton, tally_append]

/-- What counts one for each change counts the changes. -/
theorem sum_changed (laps : List Lap) :
    (laps.map fun lap => lap.changed.toNat).sum = laps.countP Lap.changed := by
  induction laps with
  | nil => rfl
  | cons lap rest ih =>
    rw [List.map_cons, List.sum_cons, ih, List.countP_cons, Nat.add_comm]
    cases lap.changed <;> rfl

/-- **Ticks, waits and builds of a run match one to one.** Let a fresh reloader run until it returns
a code. Then the run is laps, each a tick that asks to go on and a wait of the delay that it asked
for, and one more tick, the first that asks for an exit, whose code the run returns. The calls of
the run are those of the laps and of the last tick, with nothing but a record after them; so the
waits are as many as the ticks but one, in order and with these delays. The first tick builds once,
and each other tick once if the wait before it told of a change, and not at all if it did not; the
counter of the builds is one more than the number of waits that told of a change; and a tick builds
before it invokes anything. -/
theorem run_accounts (host : Host W) (input : Path) (wake : Span) (context : Context) (world : W)
    {ticks : Nat} {code : Int} {final : Session W}
    (returned : run host ticks ⟨.new input wake, context, world⟩ = (some (.exit code), final)) :
    let start : Session W := ⟨.new input wake, context, world⟩
    ∃ laps last,
      Laps host start laps last ∧ (tick host last).1 = .exit code ∧
      let ticked := laps.map Lap.ticked ++ [tickCalls host last]
      let calls := laps.flatMap (Lap.calls input) ++ tickCalls host last ++
        [.record (exitRecord code final.context.tick final.reloader.stats.swaps)]
      run host.chronicled ticks start.unwritten = (some (.exit code), final.written calls) ∧
      (∀ fewer ≤ laps.length, (run host fewer start).1 = none) ∧
      calls.filterMap HostCall.waited =
        (laps.map fun lap => (lap.delay, some lap.changed)) ∧
      ticked.map (List.countP HostCall.isBuild) =
        1 :: (laps.map fun lap => lap.changed.toNat) ∧
      final.reloader.stats.builds = 1 + laps.countP Lap.changed ∧
      calls.countP HostCall.isBuild = final.reloader.stats.builds ∧
      ∀ made ∈ ticked, made.Pairwise fun earlier later =>
        earlier.isInvocation = true → later.isBuild = false := by
  intro start
  obtain ⟨laps, last, exited, made, enough, exits, rfl⟩ := laps_of_run returned
  have builds := made.builds
  refine ⟨laps, last, made, congrArg Prod.fst exits, ?_⟩
  intro ticked calls
  have counted : exited.reloader.stats = tally ticked.flatten :=
    (made.counted exits).trans (ReloadCounts.zero_add _)
  have same : tally calls = tally ticked.flatten := tally_run input laps _ _
  have number : exited.reloader.stats.builds = 1 + laps.countP Lap.changed := by
    rw [counted]
    show ticked.flatten.countP HostCall.isBuild = _
    rw [List.countP_flatten, builds, List.sum_cons, sum_changed]
    rfl
  refine ⟨?_, fun fewer few => made.run_cut few, ?_, builds, ?_, ?_, ?_⟩
  · have written := made.run_written exits [] enough
    rw [List.nil_append] at written
    exact written
  · show calls.filterMap HostCall.waited = _
    rw [List.filterMap_append, List.filterMap_append, made.waits, tickCalls_unwaited]
    simp [HostCall.waited]
  · exact number
  · exact congrArg ReloadCounts.builds (same.trans counted.symm)
  · intro one member
    have begins : ∃ begun, one = tickCalls host begun := by
      rcases List.mem_append.mp member with earlier | final
      · obtain ⟨lap, here, rfl⟩ := List.mem_map.mp earlier
        exact made.exists_tick lap here
      · exact ⟨last, List.mem_singleton.mp final⟩
    obtain ⟨begun, rfl⟩ := begins
    exact (tick_tallied host begun).order

end Reloader

/-- A rehearsal of a module with an update function that asks for the exit in its third tick; the
first wait tells of a change. -/
def Rehearsal.changedOnce : Rehearsal :=
  { blank with
    table := .ofLegacy ⟨5, Nat.succ_ne_zero 4⟩ ⟨8, Nat.succ_ne_zero 7⟩
    updates := [("u", [.ok 0, .ok 0, .ok 4])]
    changes := [true, false] }

/-- Of the two waits before the exit one told of a change, since there were two builds. -/
theorem Reloader.run_accounts_rehearsed :
    let start : Session Rehearsal :=
      ⟨.new ⟨"app"⟩ (.ofMillis 100), .new [] 0 (.writing .unlimited) .spaced, .changedOnce⟩
    ∃ final laps last,
      run Rehearsal.host 5 start = (some (.exit 3), final) ∧ final.reloader.stats.builds = 2 ∧
        Laps Rehearsal.host start laps last ∧ laps.length ≤ 2 ∧
        laps.countP Lap.changed = 1 := by
  intro start
  have exits : (run Rehearsal.host 5 start).1 = some (.exit 3) := by decide +kernel
  have builds : (run Rehearsal.host 5 start).2.reloader.stats.builds = 2 := by decide +kernel
  have third : (run Rehearsal.host 3 start).1 ≠ none := by decide +kernel
  rcases returned : run Rehearsal.host 5 start with ⟨ending, final⟩
  rw [returned] at exits builds
  obtain rfl : ending = some (.exit 3) := exits
  obtain ⟨laps, last, made, _, _, cut, _, _, counted, _⟩ :=
    run_accounts Rehearsal.host ⟨"app"⟩ (.ofMillis 100)
      (.new [] 0 (.writing .unlimited) .spaced) .changedOnce returned
  refine ⟨final, laps, last, rfl, builds, made, ?_, ?_⟩
  · by_contra more
    exact third (cut 3 (Nat.lt_of_not_le more))
  · have total : 1 + laps.countP Lap.changed = 2 := counted.symm.trans builds
    omega

end LiveReload
