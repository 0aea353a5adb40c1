/-
**The counters of the reload loop are exact.**

Changes may be reported and ticks may be taken in any order, and anything the host answers. The
counters of a reloader are then what the calls to its host amount to, and which ticks build can be
told from the order of reports and ticks alone: the first, and every other before which a change was
reported since the tick before it, once however often it was.

* `wantsBuild`: a tick after these steps has something to build;
* `turns`: the calls of each tick;
* `Reckoned`: counters, flags and context after steps, kept by one more step (`Reckoned.concat`);
* `performAll_reckons`: the counters after every sequence of reports and ticks.
-/
import LiveReload.Proofs.Reload.Tally
import LiveReload.Reload.Rehearsal
import Mathlib.Data.List.Induction

namespace LiveReload

variable {W : Type}

/-! ### Which ticks build -/

/-- A tick after these steps is the first, or a change was reported since the one before it. -/
def wantsBuild (before : List LoopStep) : Bool :=
  decide (.tick ∉ before) || decide (.notify ∈ before.reverse.takeWhile (· ≠ .tick))

/-- How many ticks of these steps have something to build. -/
def wantedBuilds (steps : List LoopStep) : Nat :=
  (List.range steps.length).countP fun place =>
    decide (steps[place]? = some .tick) && wantsBuild (steps.take place)

theorem wantsBuild_notify (steps : List LoopStep) : wantsBuild (steps ++ [.notify]) = true := by
  simp [wantsBuild]

theorem wantsBuild_tick (steps : List LoopStep) : wantsBuild (steps ++ [.tick]) = false := by
  simp [wantsBuild]

theorem wantedBuilds_concat (steps : List LoopStep) (step : LoopStep) :
    wantedBuilds (steps ++ [step]) =
      wantedBuilds steps + (decide (step = .tick) && wantsBuild steps).toNat := by
  unfold wantedBuilds
  rw [List.length_append, List.length_singleton, List.range_succ, List.countP_append]
  congr 1
  · refine List.countP_congr fun place inside => ?_
    have within := List.mem_range.mp inside
    rw [List.getElem?_append_left within, List.take_append_of_le_length within.le]
  · rw [List.countP_singleton, List.getElem?_concat_length, List.take_left]
    cases step <;> cases wantsBuild steps <;> rfl

/-- What is left from the first item of a kind on grows with every item from then on. -/
theorem length_dropWhile_concat {α : Type} (kind : α → Bool) (items : List α) (item : α) :
    ((items ++ [item]).dropWhile fun one => !kind one).length =
      (items.dropWhile fun one => !kind one).length + (items.any kind || kind item).toNat := by
  induction items with
  | nil => cases known : kind item <;> simp [known]
  | cons first rest ih =>
    rw [List.cons_append, List.dropWhile_cons, List.dropWhile_cons, List.any_cons]
    cases known : kind first with
    | true => simp
    | false =>
      rw [Bool.not_false, if_pos rfl, if_pos rfl, ih]
      rfl

/-! ### The calls of each tick -/

namespace Reloader

/-- The calls of each tick of some steps. -/
def turns (host : Host W) : Session W → List LoopStep → List (List HostCall)
  | _, [] => []
  | session, .notify :: rest => turns host (notifySession session) rest
  | session, .tick :: rest => tickCalls host session :: turns host (tick host session).2 rest

variable {host : Host W}

theorem turns_append (host : Host W) (session : Session W) (steps more : List LoopStep) :
    turns host session (steps ++ more) =
      turns host session steps ++ turns host (performAll host session steps) more := by
  induction steps generalizing session with
  | nil => rfl
  | cons step rest ih =>
    cases step with
    | notify => exact ih (notifySession session)
    | tick => exact congrArg (tickCalls host session :: ·) (ih (tick host session).2)

/-- A tick brought a generation up. -/
def broughtSomething (turn : List HostCall) : Bool := turn.any HostCall.bringsUp

/-- What counters, flags and context come to after some steps. -/
structure Reckoned (host : Host W) (start : Session W) (steps : List LoopStep) : Prop where
  length : (turns host start steps).length = steps.count .tick
  stats : (performAll host start steps).reloader.stats =
    tally (turns host start steps).flatten
  due : (performAll host start steps).reloader.due = wantsBuild steps
  builds : (tally (turns host start steps).flatten).builds = wantedBuilds steps
  parts : (tally (turns host start steps).flatten).builds =
    (tally (turns host start steps).flatten).buildFailures +
      (tally (turns host start steps).flatten).loadFailures +
      (tally (turns host start steps).flatten).swaps
  active : (performAll host start steps).reloader.active.isSome =
    (turns host start steps).any broughtSomething
  invocations : (tally (turns host start steps).flatten).invocations =
    ((turns host start steps).dropWhile fun turn => !broughtSomething turn).length
  tick : ((performAll host start steps).context.tick : Int) =
    start.context.tick + (turns host start steps).length +
      ticksInside (turns host start steps).flatten

theorem Reckoned.fresh (host : Host W) (input : Path) (wake : Span) (context : Context)
    (world : W) : Reckoned host ⟨.new input wake, context, world⟩ [] where
  length := rfl
  stats := rfl
  due := rfl
  builds := rfl
  parts := rfl
  active := rfl
  invocations := rfl
  tick := by simp [performAll, turns, ticksInside]

/-- A report only makes a build due. -/
theorem Reckoned.notify {start : Session W} {steps : List LoopStep}
    (reckoned : Reckoned host start steps) : Reckoned host start (steps ++ [.notify]) := by
  have after : performAll host start (steps ++ [.notify]) =
      notifySession (performAll host start steps) := List.foldl_concat ..
  have same : turns host start (steps ++ [.notify]) = turns host start steps := by
    rw [turns_append]
    exact List.append_nil _
  constructor
  · rw [same, reckoned.length, List.count_append]
    rfl
  · rw [same, after]
    exact reckoned.stats
  · rw [after, wantsBuild_notify]
    exact Bool.or_true _
  · rw [same, wantedBuilds_concat]
    exact reckoned.builds
  · rw [same]
    exact reckoned.parts
  · rw [same, after]
    exact reckoned.active
  · rw [same]
    exact reckoned.invocations
  · rw [same, after]
    exact reckoned.tick

/-- A tick counts its own calls. -/
theorem Reckoned.ticked {start : Session W} {steps : List LoopStep}
    (reckoned : Reckoned host start steps) : Reckoned host start (steps ++ [.tick]) := by
  have told := tick_tallied host (performAll host start steps)
  have after : performAll host start (steps ++ [.tick]) =
      (Reloader.tick host (performAll host start steps)).2 := List.foldl_concat ..
  have more : turns host start (steps ++ [.tick]) =
      turns host start steps ++ [tickCalls host (performAll host start steps)] :=
    turns_append ..
  have calls : (turns host start (steps ++ [.tick])).flatten =
      (turns host start steps).flatten ++ tickCalls host (performAll host start steps) := by
    rw [more, List.flatten_append, List.flatten_singleton]
  have counts := tally_append (turns host start steps).flatten
    (tickCalls host (performAll host start steps))
  -- In each field the tick adds to what was reckoned before what it tallies of its own calls.
  constructor
  · rw [more, List.length_append, reckoned.length, List.count_append]
    rfl
  · rw [after, calls, counts, ← reckoned.stats]
    exact told.stats
  · rw [after, wantsBuild_tick]
    exact told.done
  · rw [calls, counts, wantedBuilds_concat, ← reckoned.builds, ← reckoned.due]
    exact congrArg (_ + ·) told.builds
  · have parts := reckoned.parts
    have own := told.parts
    rw [calls, counts]
    show _ + _ = _ + _ + (_ + _) + (_ + _)
    omega
  · rw [after, more, List.any_append, ← reckoned.active, told.active]
    exact congrArg (_ || ·) (Bool.or_false _).symm
  · rw [more, length_dropWhile_concat, ← more, calls, counts, ← reckoned.invocations,
      ← reckoned.active]
    exact congrArg (_ + ·) (told.invocations.trans (congrArg Bool.toNat told.active))
  · rw [after, calls, more, ticksInside_append, List.length_append, List.length_singleton,
      told.tick, reckoned.tick, Int.natCast_add]
    omega

/-- What is reckoned holds after all steps. -/
theorem reckoned (host : Host W) (input : Path) (wake : Span) (context : Context) (world : W)
    (steps : List LoopStep) : Reckoned host ⟨.new input wake, context, world⟩ steps := by
  induction steps using List.reverseRecOn with
  | nil => exact .fresh host input wake context world
  | append_singleton steps step ih =>
    cases step with
    | notify => exact ih.notify
    | tick => exact ih.ticked

end Reloader

end LiveReload
