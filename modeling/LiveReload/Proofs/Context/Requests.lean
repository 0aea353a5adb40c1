/-
**The two requests that a context carries.**

A context carries the delay that was asked for last and, once there was one, the exit code that was
asked for last. What a module does with its context otherwise neither reads them nor changes them,
so after any actions they can be told from the actions alone.

* `Context.withRequests`: a context with other requests;
* `Context.Blind`: a use of the context that neither reads nor changes its requests;
* `Action.delay?`, `Action.exit?`: the request that an action makes;
* `Context.act_withRequests`: the requests of a context after any actions, which do the same to the
  rest of it whatever the requests were.
-/
import LiveReload.Context.Action

namespace LiveReload

namespace Context

/-- The context with another delay and exit code. -/
def withRequests (context : Context) (wake : Span) (code : Option Int) : Context :=
  { context with wakeDelay := wake, exitCode := code }

theorem withRequests_self (context : Context) :
    context.withRequests context.wakeDelay context.exitCode = context := rfl

/-- The use of the context neither reads nor changes its requests. -/
def Blind {α : Type} (use : Context → α × Context) : Prop :=
  ∀ context wake code, use (context.withRequests wake code) =
    ((use context).1, (use context).2.withRequests wake code)

namespace Blind

theorem answer {α : Type} (value : α) : Blind fun context => (value, context) := fun _ _ _ => rfl

theorem allocateIn (layout : Layout) (arena : ArenaName) :
    Blind fun context => Action.allocateIn context layout arena := by
  intro context wake code
  cases arena <;> rfl

theorem storeIn (layout : Layout) (data : Array UInt8) (arena : ArenaName) :
    Blind fun context => Action.storeIn context layout data arena := by
  intro context wake code
  cases arena <;> rfl

/-- The state is made as blindly as its initializer works. -/
theorem ensureState (layout : Layout) {make : Initializer} (blind : Blind make) :
    Blind fun context => context.ensureState layout make := by
  intro context wake code
  have made := blind context wake code
  show (context.withRequests wake code).ensureState layout make =
    ((context.ensureState layout make).1,
      (context.ensureState layout make).2.withRequests wake code)
  cases set : context.state with
  | some address =>
    rw [ensureState_of_some set]
    exact ensureState_of_some set
  | none =>
    have unset : (context.withRequests wake code).state = none := set
    rcases given : make context with ⟨crash | data, inside⟩
    · rw [given] at made
      rw [ensureState_of_error set given]
      exact ensureState_of_error unset made
    · rw [given] at made
      have kept : (inside.withRequests wake code).storeMem layout data =
          ((inside.storeMem layout data).1,
            (inside.storeMem layout data).2.withRequests wake code) :=
        storeIn layout data .mem inside wake code
      rcases stored : inside.storeMem layout data with ⟨crash | region, after⟩
      · rw [stored] at kept
        rw [ensureState_of_refused set given stored]
        exact ensureState_of_refused unset made kept
      · rw [stored] at kept
        rw [ensureState_of_stored set given stored]
        exact ensureState_of_stored unset made kept

theorem initializer (origin : Origin) : Blind (Action.initializer origin) := by
  intro context wake code
  cases origin with
  | value value => rfl
  | identifier => rfl
  | nested value =>
    have blind : Blind (Action.giveValue value) := answer _
    have made := ensureState Action.wordLayout blind context wake code
    dsimp only at made
    simp only [Action.initializer, made]
    rcases context.ensureState Action.wordLayout (Action.giveValue value) with
      ⟨crash | address, after⟩
    · rfl
    · show (if (Action.wordAt after address).toNat + 1 < UInt64.size then _ else _) = _
      dsimp only
      split <;> rfl

theorem useApp (origin : Origin) {use : Nat → Context → Answer × Context}
    (blind : ∀ address, Blind (use address)) :
    Blind fun context => Action.useApp context origin use := by
  intro context wake code
  have made := ensureState Action.wordLayout (initializer origin) context wake code
  dsimp only at made
  simp only [Action.useApp, made]
  rcases context.ensureState Action.wordLayout (Action.initializer origin) with
    ⟨crash | address, after⟩
  · rfl
  · exact blind address after wake code

end Blind

end Context

/-! ### Requests of actions -/

namespace Action

/-- The delay that an action asks for. -/
def delay? (context : Context) : Action → Option Span
  | askWake delay => some delay
  | openTick wake => some wake
  | pace now => (context.pacer.advance now).1.toOption
  | _ => none

/-- The exit code that an action asks for. -/
def exit? : Action → Option Int
  | askExit code => some code
  | _ => none

/-- An action makes its own request, or leaves what was requested before. -/
theorem perform_withRequests (context : Context) (wake : Span) (code : Option Int)
    (action : Action) :
    (perform (context.withRequests wake code) action).2.2 =
      (perform context action).2.2.withRequests ((action.delay? context).getD wake)
        (action.exit?.or code) := by
  have left {α : Type} {use : Context → α × Context} (blind : Context.Blind use) :
      (use (context.withRequests wake code)).2 = (use context).2.withRequests wake code :=
    congrArg Prod.snd (blind context wake code)
  cases action with
  | app origin =>
    exact left (.useApp origin fun address context wake code => rfl)
  | addToApp origin amount =>
    exact left (.useApp (.value origin) fun address context wake code => rfl)
  | allocate arena size align =>
    rw [perform_allocate, perform_allocate]
    cases Layout.of? size align with
    | none => rfl
    | some layout => exact left (.allocateIn layout arena)
  | storeText arena text =>
    rw [perform_storeText, perform_storeText]
    cases textLayout? text with
    | none => rfl
    | some layout => exact left (.storeIn layout text.toUTF8.data arena)
  | draw kind => cases kind <;> rfl
  | pace now =>
    simp only [perform, delay?, Context.pace]
    rw [show (context.withRequests wake code).pacer = context.pacer from rfl]
    rcases context.pacer.advance now with ⟨crash | sleep, pacer⟩ <;> rfl
  | _ => rfl

/-- The exit codes that actions ask for, in order. -/
def exitsIn (actions : List Action) : List Int := actions.filterMap exit?

theorem exitsIn_cons (action : Action) (rest : List Action) :
    exitsIn (action :: rest) = action.exit?.toList ++ exitsIn rest := by
  unfold exitsIn
  rw [List.filterMap_cons]
  cases action.exit? <;> rfl

theorem exitsIn_append (actions more : List Action) :
    exitsIn (actions ++ more) = exitsIn actions ++ exitsIn more := List.filterMap_append

/-- The action does nothing but ask for a delay. -/
def isDelay : Action → Bool
  | askWake _ => true
  | openTick _ => true
  | _ => false

/-- The actions without those that do nothing but ask for a delay. -/
def undelayed (actions : List Action) : List Action := actions.filter fun action => !action.isDelay

/-- An action that does nothing but ask for a delay is like any other request for one. -/
theorem perform_of_isDelay (context : Context) {action : Action} (delays : action.isDelay = true) :
    ∃ delay, (perform context action).2.2 = context.askWake delay := by
  cases action with
  | askWake delay => exact ⟨delay, rfl⟩
  | openTick wake => exact ⟨wake, rfl⟩
  | _ => cases delays

end Action

/-! ### Requests of many actions -/

namespace Context

/-- The context after actions in order. -/
def act (context : Context) (actions : List Action) : Context :=
  actions.foldl (fun context action => (Action.perform context action).2.2) context

/-- The delays that actions ask for, in order. -/
def delaysIn (context : Context) : List Action → List Span
  | [] => []
  | action :: rest =>
    (action.delay? context).toList ++ delaysIn (Action.perform context action).2.2 rest

/-- What was asked for in the rest counts more than what was asked for first. -/
theorem getLast?_toList_append {α : Type} (first : Option α) (rest : List α) :
    (first.toList ++ rest).getLast? = rest.getLast?.or first := by
  cases first <;> simp [List.getLast?_cons]

/-- **The requests of a context are the last ones**, or those that it had before; the rest of it
does not depend on them. -/
theorem act_withRequests (context : Context) (wake : Span) (code : Option Int)
    (actions : List Action) :
    (context.withRequests wake code).act actions =
      (context.act actions).withRequests ((context.delaysIn actions).getLast?.getD wake)
        ((Action.exitsIn actions).getLast?.or code) := by
  induction actions generalizing context wake code with
  | nil => rfl
  | cons action rest ih =>
    show ((Action.perform (context.withRequests wake code) action).2.2).act rest = _
    rw [Action.perform_withRequests, ih, delaysIn, Action.exitsIn_cons, getLast?_toList_append,
      getLast?_toList_append, Option.or_assoc]
    congr 1
    cases (delaysIn (Action.perform context action).2.2 rest).getLast? <;> rfl

theorem act_wakeDelay (context : Context) (actions : List Action) :
    (context.act actions).wakeDelay =
      (context.delaysIn actions).getLast?.getD context.wakeDelay :=
  congrArg wakeDelay (context.act_withRequests context.wakeDelay context.exitCode actions)

theorem act_exitCode (context : Context) (actions : List Action) :
    (context.act actions).exitCode = (Action.exitsIn actions).getLast?.or context.exitCode :=
  congrArg exitCode (context.act_withRequests context.wakeDelay context.exitCode actions)

/-- Contexts that differ in the delay differ in nothing else after the same actions. -/
theorem act_askWake (context : Context) (delay other : Span) (actions : List Action) :
    ((context.askWake delay).act actions).askWake other =
      (context.act actions).askWake other := by
  have first := context.act_withRequests delay context.exitCode actions
  have second := context.act_withRequests context.wakeDelay context.exitCode actions
  rw [withRequests_self] at second
  show ((context.withRequests delay context.exitCode).act actions).askWake other = _
  rw [first, second]
  rfl

/-- Actions that do nothing but ask for a delay change nothing but the delay. -/
theorem act_undelayed (context : Context) (actions : List Action) (other : Span) :
    (context.act actions).askWake other =
      (context.act (Action.undelayed actions)).askWake other := by
  induction actions generalizing context with
  | nil => rfl
  | cons action rest ih =>
    unfold Action.undelayed
    rw [List.filter_cons]
    cases delays : action.isDelay with
    | false => exact ih _
    | true =>
      obtain ⟨delay, same⟩ := Action.perform_of_isDelay context delays
      show ((Action.perform context action).2.2.act rest).askWake other = _
      rw [same, act_askWake]
      exact ih context

end Context

end LiveReload
