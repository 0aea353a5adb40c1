/-
**What follows a tick.**

After a tick the host ends or waits. Three things decide it, in this order: the result of an update
function in this tick; an exit code that was asked for in this tick or any earlier one; the delay
that was asked for last in this tick. The last two lie in fields of the context that outlive the
tick, so that only the whole history tells what is left in them.

* `Host.acting`: main functions take any actions that a context offers;
* `ModuleTurn`, `turnOf`: what the module does in a tick;
* `SessionStep`, `takeAll`: reports, ticks, and requests that are made between ticks;
* `tick_askWake`: a tick forgets the delay before it;
* `tick_turn`: what follows one tick;
* `takeAll_next`: what follows a tick after any history, and that delays of earlier ticks do not
  matter.
-/
import LiveReload.Proofs.Context.Requests
import LiveReload.Proofs.Reload.LastGood

namespace LiveReload

variable {W : Type}

/-- What main functions do with the context that they are given. -/
abbrev Script (W : Type) := Address → Context → W → List Action × W

/-- The host whose main functions take the actions of a script. -/
def Host.acting (host : Host W) (script : Script W) : Host W :=
  { host with
    callMain := fun address context world =>
      let (actions, world) := script address context world
      (context.act actions, world) }

/-- What the module does in a tick. -/
inductive ModuleTurn
  /-- No module is active. -/
  | nothing
  /-- A main function takes actions with the context that it is given. -/
  | acted (given : Context) (actions : List Action)
  /-- An update function answers. -/
  | updated (result : UInt32)

namespace ModuleTurn

/-- The actions with the context. -/
def actions : ModuleTurn → List Action
  | acted _ actions => actions
  | _ => []

/-- The delays that were asked for. -/
def delays : ModuleTurn → List Span
  | acted given actions => given.delaysIn actions
  | _ => []

/-- The exit code that the result of an update function asks for. -/
def code : ModuleTurn → Option Int
  | updated result => exitCode result
  | _ => none

end ModuleTurn

/-- What can happen to a session. -/
inductive SessionStep
  /-- A change is reported. -/
  | notify
  /-- Whoever keeps the context takes an action between ticks. -/
  | act (action : Action)
  | tick

/-- The session with another delay in its context. -/
def Session.askWake (session : Session W) (delay : Span) : Session W :=
  { session with context := session.context.askWake delay }

namespace Reloader

/-- What the module does in the next tick. -/
def turnOf (host : Host W) (script : Script W) (session : Session W) : ModuleTurn :=
  let called := atCall (host.acting script) session
  match called.reloader.active with
  | none => .nothing
  | some generation =>
    match generation.entry with
    | .main address =>
      .acted called.context (script address called.context called.world).1
    | .legacy _ update =>
      .updated (host.callUpdate update (called.reloader.legacyState.getD 0) called.world).1

/-- One step. -/
def take (host : Host W) (session : Session W) : SessionStep → Session W
  | .notify => notifySession session
  | .act action => { session with context := session.context.act [action] }
  | .tick => (Reloader.tick host session).2

/-- Steps in order. -/
def takeAll (host : Host W) (session : Session W) (steps : List SessionStep) : Session W :=
  steps.foldl (take host) session

/-- The actions with the context in one step. -/
def actionsOf (host : Host W) (script : Script W) (session : Session W) : SessionStep → List Action
  | .notify => []
  | .act action => [action]
  | .tick => (turnOf host script session).actions

/-- The actions with the context in some steps. -/
def actionsIn (host : Host W) (script : Script W) (session : Session W) :
    List SessionStep → List Action
  | [] => []
  | step :: rest =>
    actionsOf host script session step ++
      actionsIn host script (take (host.acting script) session step) rest

/-- What follows the ticks of some steps, in order. -/
def nextSteps (host : Host W) (session : Session W) : List SessionStep → List NextStep
  | [] => []
  | .tick :: rest =>
    (Reloader.tick host session).1 :: nextSteps host (Reloader.tick host session).2 rest
  | step :: rest => nextSteps host (take host session step) rest

/-! ### One tick -/

section Tick

variable (host : Host W) (session : Session W)

/-- A reload leaves the delay that is configured, and does not look at the one in the context. -/
theorem reload_askWake (delay : Span) :
    reload host (session.askWake delay) = (reload host session).askWake delay ∧
      (reload host session).reloader.defaultWake = session.reloader.defaultWake := by
  rcases result : attempt host session.reloader session.world with
    ⟨error | generation, stats, world⟩
  · rw [reload_of_error result]
    exact ⟨reload_of_error result, rfl⟩
  · rw [reload_of_ok result]
    exact ⟨reload_of_ok result, rfl⟩

theorem reloadIfDue_askWake (delay : Span) :
    reloadIfDue host (session.askWake delay) = (reloadIfDue host session).askWake delay ∧
      (reloadIfDue host session).reloader.defaultWake = session.reloader.defaultWake := by
  by_cases due : (session.reloader.fresh || session.reloader.changed) = true
  · let begun : Session W :=
      { session with reloader := { session.reloader with fresh := false, changed := false } }
    have here : reloadIfDue host session = reload host begun := if_pos due
    have there : reloadIfDue host (session.askWake delay) = reload host (begun.askWake delay) :=
      if_pos due
    rw [here, there]
    exact reload_askWake host begun delay
  · have here : reloadIfDue host session = session := if_neg due
    have there : reloadIfDue host (session.askWake delay) = session.askWake delay := if_neg due
    rw [here, there]
    exact ⟨rfl, rfl⟩

theorem atCall_askWake (delay : Span) :
    atCall host (session.askWake delay) = atCall host session := by
  unfold atCall
  rw [(reloadIfDue_askWake host session delay).1]
  rfl

theorem atCall_wakeDelay :
    (atCall host session).context.wakeDelay = session.reloader.defaultWake :=
  (reloadIfDue_askWake host session .zero).2

/-- **A tick forgets the delay before it**: neither what follows nor what is left depends on it. -/
theorem tick_askWake (delay : Span) : tick host (session.askWake delay) = tick host session := by
  rw [tick_eq, tick_eq, atCall_askWake]

end Tick

section Turn

variable (host : Host W) (script : Script W) (session : Session W)

/-- The call of what is active does what the turn tells. -/
theorem invoke_turn :
    let called := atCall (host.acting script) session
    let turn := turnOf host script session
    (invoke (host.acting script) called).1 = turn.code ∧
      (invoke (host.acting script) called).2.context = called.context.act turn.actions ∧
      turn.delays = called.context.delaysIn turn.actions := by
  intro called turn
  cases active : called.reloader.active with
  | none =>
    have same : turn = .nothing := by simp only [turn, turnOf, called, active]
    rw [invoke_of_none active, same]
    exact ⟨rfl, rfl, rfl⟩
  | some generation =>
    cases entry : generation.entry with
    | main address =>
      have same : turn =
          .acted called.context (script address called.context called.world).1 := by
        simp only [turn, turnOf, called, active, entry]
      rw [invoke_of_main active entry, same]
      exact ⟨rfl, rfl, rfl⟩
    | legacy init update =>
      have same : turn = .updated
          (host.callUpdate update (called.reloader.legacyState.getD 0) called.world).1 := by
        simp only [turn, turnOf, called, active, entry]
      rw [invoke_of_legacy active entry, same]
      exact ⟨rfl, rfl, rfl⟩

/-- **What follows one tick**, and what exit code is left in the context. -/
theorem tick_turn :
    let turn := turnOf host script session
    let ticked := tick (host.acting script) session
    let code := (Action.exitsIn turn.actions).getLast?.or session.context.exitCode
    ticked.2.context.exitCode = code ∧
      ticked.1 =
        match turn.code.or code with
        | some code => .exit code
        | none => .wait (turn.delays.getLast?.getD session.reloader.defaultWake) := by
  intro turn ticked code
  obtain ⟨requested, left, delays⟩ := invoke_turn host script session
  obtain ⟨reloaded, wakeDelay, begun⟩ := atCall_context (host.acting script) session
  let called := invoke (host.acting script) (atCall (host.acting script) session)
  have exits : called.2.context.exitCode = code := by
    rw [left, Context.act_exitCode, begun]
  have waits : called.2.context.wakeDelay =
      turn.delays.getLast?.getD session.reloader.defaultWake := by
    rw [left, Context.act_wakeDelay, delays, atCall_wakeDelay]
  refine ⟨exits, ?_⟩
  show outcome called.1 _ = _
  rw [requested, ← exits, ← waits]
  rfl

end Turn

/-! ### Histories -/

section History

variable (host : Host W) (script : Script W) (session : Session W)

/-- A tick leaves the delay that is configured. -/
theorem tick_defaultWake :
    (tick host session).2.reloader.defaultWake = session.reloader.defaultWake := by
  rw [← (reloadIfDue_askWake host session .zero).2]
  show (invoke host (atCall host session)).2.reloader.defaultWake =
    (atCall host session).reloader.defaultWake
  rcases invoke_reloader host (atCall host session) with same | counted
  · rw [same]
  · rw [counted]
    rfl

/-- What is asked for in a step counts more than what was asked for before. -/
theorem take_exitCode (step : SessionStep) :
    (take (host.acting script) session step).context.exitCode =
      (Action.exitsIn (actionsOf host script session step)).getLast?.or
        session.context.exitCode := by
  cases step with
  | notify => rfl
  | act action => exact session.context.act_exitCode [action]
  | tick => exact (tick_turn host script session).1

/-- After some steps the context holds the exit code that was asked for last. -/
theorem takeAll_exitCode (steps : List SessionStep) :
    (takeAll (host.acting script) session steps).context.exitCode =
      (Action.exitsIn (actionsIn host script session steps)).getLast?.or
        session.context.exitCode := by
  induction steps generalizing session with
  | nil => rfl
  | cons step rest ih =>
    show (takeAll (host.acting script) (take (host.acting script) session step)
      rest).context.exitCode = _
    rw [ih, take_exitCode, actionsIn, Action.exitsIn_append, List.getLast?_append, Option.or_assoc]

theorem takeAll_defaultWake (steps : List SessionStep) :
    (takeAll host session steps).reloader.defaultWake = session.reloader.defaultWake := by
  induction steps generalizing session with
  | nil => rfl
  | cons step rest ih =>
    show (takeAll host (take host session step) rest).reloader.defaultWake = _
    rw [ih]
    cases step with
    | notify => rfl
    | act action => rfl
    | tick => exact tick_defaultWake host session

end History

/-! ### Two runs that differ in delays -/

/-- The scripts differ in nothing but delays that are asked for. -/
def SameButDelays (script other : Script W) : Prop :=
  ∀ address context world,
    Action.undelayed (script address context world).1 =
        Action.undelayed (other address context world).1 ∧
      (script address context world).2 = (other address context world).2

/-- The sessions differ in nothing but the delay in the context. -/
def Alike (session other : Session W) : Prop := session.askWake .zero = other.askWake .zero

section Alike

variable {host : Host W} {script other : Script W} {first second : Session W}

/-- The same tick under scripts that differ in delays leaves sessions that differ in the delay. -/
theorem tick_alike (same : SameButDelays script other) (session : Session W) :
    Alike (tick (host.acting script) session).2 (tick (host.acting other) session).2 := by
  have called : atCall (host.acting script) session = atCall (host.acting other) session := rfl
  rw [tick_eq, tick_eq, called]
  cases active : (atCall (host.acting other) session).reloader.active with
  | none =>
    rw [invoke_of_none active, invoke_of_none active]
    rfl
  | some generation =>
    cases entry : generation.entry with
    | main address =>
      let given := (atCall (host.acting other) session).context
      obtain ⟨actions, world⟩ := same address given (atCall (host.acting other) session).world
      have contexts := given.act_undelayed
        (script address given (atCall (host.acting other) session).world).1 .zero
      rw [actions, ← given.act_undelayed] at contexts
      -- The end of a tick does not look at the delay.
      have ended := congrArg
        (fun context : Context => ({ context with reloaded := false }).closeTick) contexts
      rw [invoke_of_main active entry, invoke_of_main active entry]
      show Session.mk _ (Context.askWake (Context.closeTick _) .zero) _ = Session.mk _ _ _
      exact congr (congrArg (Session.mk _) ended) world
    | legacy init update =>
      rw [invoke_of_legacy active entry, invoke_of_legacy active entry]
      rfl

theorem Alike.tick (alike : Alike first second) :
    Reloader.tick (host.acting script) first = Reloader.tick (host.acting script) second := by
  rw [← tick_askWake _ first .zero, ← tick_askWake _ second .zero]
  exact congrArg _ alike

theorem Alike.take (same : SameButDelays script other) (alike : Alike first second)
    (step : SessionStep) :
    Alike (take (host.acting script) first step) (take (host.acting other) second step) := by
  cases step with
  | notify => exact congrArg notifySession alike
  | act action =>
    have acted (session : Session W) :
        (Reloader.take (host.acting script) session (.act action)).askWake .zero =
          (Reloader.take (host.acting script) (session.askWake .zero)
            (.act action)).askWake .zero :=
      congrArg (fun context => { session with context })
        (session.context.act_askWake .zero .zero [action]).symm
    show Alike (Reloader.take (host.acting script) first (.act action))
      (Reloader.take (host.acting script) second (.act action))
    unfold Alike
    rw [acted first, acted second, show first.askWake .zero = _ from alike]
  | tick =>
    show Alike (Reloader.tick (host.acting script) first).2 _
    rw [alike.tick]
    exact tick_alike same second

theorem Alike.takeAll (same : SameButDelays script other) (alike : Alike first second)
    (steps : List SessionStep) :
    Alike (takeAll (host.acting script) first steps)
      (takeAll (host.acting other) second steps) := by
  induction steps generalizing first second with
  | nil => exact alike
  | cons step rest ih => exact ih (alike.take same step)

theorem SameButDelays.refl (script : Script W) : SameButDelays script script :=
  fun _ _ _ => ⟨rfl, rfl⟩

/-- What follows the ticks of sessions that differ in the delay alone is the same. -/
theorem Alike.nextSteps (alike : Alike first second) (steps : List SessionStep) :
    nextSteps (host.acting script) first steps = nextSteps (host.acting script) second steps := by
  induction steps generalizing first second with
  | nil => rfl
  | cons step rest ih =>
    have later : Alike (Reloader.take (host.acting script) first step)
        (Reloader.take (host.acting script) second step) := alike.take (.refl script) step
    cases step with
    | tick =>
      unfold Reloader.nextSteps
      rw [alike.tick]
    | notify => exact ih later
    | act action => exact ih later

end Alike

/-- **What follows a tick.** Let main functions take any actions with the context that they are
given, and let whoever keeps the context take any between ticks. After any history from a new
context and a new reloader, the next tick is followed by this: if an update function answers a
result other than zero, the code one below it, at most the greatest there is; else, if an exit code
was ever asked for, the one that was asked for last; else a wait, for the delay that was asked for
last in this tick, or the one that is configured. Whatever delays are asked for in a history instead
of others, what follows every tick after it is the same. -/
theorem takeAll_next (host : Host W) (script : Script W) (input : Path) (wake : Span)
    (args : List String) (seed : UInt64) (output : Output) (supply : ChunkSupply) (world : W)
    (steps : List SessionStep) :
    let start : Session W := ⟨.new input wake, .new args seed output supply, world⟩
    let session := takeAll (host.acting script) start steps
    let turn := turnOf host script session
    let codes := Action.exitsIn (actionsIn host script start steps ++ turn.actions)
    let next := (tick (host.acting script) session).1
    (∀ result, turn = .updated result → 0 < result.toNat →
        next = .exit ((min (result.toNat - 1) (2 ^ 31 - 1) : Nat) : Int)) ∧
      ((∀ result, turn = .updated result → result.toNat = 0) →
        (∀ code, codes.getLast? = some code → next = .exit code) ∧
          (codes = [] → next = .wait (turn.delays.getLast?.getD wake))) ∧
      ∀ other common more, SameButDelays script other →
        nextSteps (host.acting common) (takeAll (host.acting other) start steps) more =
          nextSteps (host.acting common) session more := by
  intro start session turn codes next
  obtain ⟨-, followed⟩ := tick_turn host script session
  have codes_eq : codes.getLast? =
      (Action.exitsIn turn.actions).getLast?.or session.context.exitCode := by
    show (Action.exitsIn (_ ++ turn.actions)).getLast? = _
    rw [Action.exitsIn_append, List.getLast?_append, takeAll_exitCode]
    exact congrArg _ (Option.or_none).symm
  rw [← codes_eq, takeAll_defaultWake] at followed
  refine ⟨?_, ?_, ?_⟩
  · intro result updated positive
    have nonzero : result ≠ 0 := by
      rintro rfl
      exact absurd positive (by decide)
    have asked : turn.code = some ((min (result.toNat - 1) (2 ^ 31 - 1) : Nat) : Int) := by
      rw [updated]
      exact if_neg nonzero
    rw [asked] at followed
    exact followed
  · intro idle
    have unasked : turn.code = none := by
      cases does : turn with
      | nothing => rfl
      | acted given actions => rfl
      | updated result => exact if_pos (UInt32.toNat_inj.mp (idle result does))
    rw [unasked, Option.none_or] at followed
    refine ⟨fun code last => ?_, fun never => ?_⟩
    · rw [last] at followed
      exact followed
    · rw [never] at followed
      exact followed
  · intro other common more same
    have alike : Alike session (takeAll (host.acting other) start steps) :=
      Alike.takeAll same (rfl : Alike start start) steps
    exact (Alike.nextSteps alike more).symm

end Reloader

end LiveReload
