/-
**The application state is made once, unless its initializer makes it.**

The first use of the application state that returns makes it; every later one finds it, until the
state is dropped. An initializer is given the whole context, though, and may use the state before
its own value is stored. That use makes a state too and returns its address, and then the value of
the initializer takes the place of it, at another address.

* `StateUse`: a use of the state that returned, with the addresses that were returned inside the
  initializer if it made the state;
* `usesIn`, `answersIn`: the uses in some steps, nested ones included or not;
* `StateTrace`: the uses tell which state there is (`perform_trace`, by recursion on the step);
* `performAll_uses_state`: what every use returns, and when the state is made once.
-/
import LiveReload.Proofs.Context.StateKept

namespace LiveReload

/-! ### Uses of the state -/

mutual

/-- Neither the step nor an initializer in it drops the state. -/
def ContextStep.Keeps : ContextStep → Prop
  | .dropState => False
  | .ensureState _ body _ => KeepAll body
  | _ => True

/-- None of the steps drops the state, nor does an initializer in them. -/
def ContextStep.KeepAll : List ContextStep → Prop
  | [] => True
  | step :: rest => Keeps step ∧ KeepAll rest

end

/-- A use of the application state that returned. -/
inductive StateUse
  /-- There was state; this is its address. -/
  | found (address : Nat)
  /-- There was none, and what an initializer gave became the state at `address`; uses of the state
  inside the initializer had returned the addresses `inside`. -/
  | made (inside : List Nat) (address : Nat)
deriving DecidableEq, Repr

namespace StateUse

/-- The address that the use returned. -/
def address : StateUse → Nat
  | found address => address
  | made _ address => address

/-- The use stored the value of an initializer. -/
def Makes : StateUse → Prop
  | found _ => False
  | made _ _ => True

/-- All uses return one address, and after one has returned no other stores a value. -/
structure Once (uses : List StateUse) : Prop where
  same : ∀ use ∈ uses, ∀ other ∈ uses, use.address = other.address
  kept : uses.Pairwise fun _ later => ¬ later.Makes

end StateUse

namespace Account

/-- The initializer that takes the steps of `body` and ends with `outcome`. -/
def initializer (account : Account) {layout : Layout} (body : List ContextStep)
    (outcome : Context → Except Crash (Vector UInt8 layout.size)) : Context.Initializer :=
  fun context =>
    let inside := performAll { account with context } body
    ((outcome inside.context).map Vector.toArray, inside.context)

/-- The address that a step itself returns, if it is a use of the state that returns. -/
def answer? (account : Account) : ContextStep → Option Nat
  | .ensureState layout body outcome =>
    (account.context.ensureState layout (account.initializer body outcome)).1.toOption
  | _ => none

/-- The addresses that the steps return, but not the steps of initializers. -/
def answersIn (account : Account) : List ContextStep → List Nat
  | [] => []
  | step :: rest => (account.answer? step).toList ++ answersIn (account.perform step) rest

mutual

/-- The uses of the state in a step, initializers included, in the order in which they return. -/
def usesOf (account : Account) : ContextStep → List StateUse
  | .ensureState layout body outcome =>
    let answer := (account.context.ensureState layout (account.initializer body outcome)).1
    match account.context.state, answer with
    | some _, .ok address => [.found address]
    | some _, .error _ => []
    | none, .ok address =>
      let inside := usesIn account body
      inside ++ [.made (inside.map StateUse.address) address]
    | none, .error _ => usesIn account body
  | _ => []

/-- The uses of the state in some steps, initializers included, in the order of their returns. -/
def usesIn (account : Account) : List ContextStep → List StateUse
  | [] => []
  | step :: rest => usesOf account step ++ usesIn (account.perform step) rest

end

end Account

/-! ### What uses tell about the state -/

/-- From the state `before` the uses lead to the state `after`. -/
inductive StateTrace : Option Nat → List StateUse → Option Nat → Prop
  | nothing (state : Option Nat) : StateTrace state [] state
  | found (address : Nat) : StateTrace (some address) [.found address] (some address)
  | made {inside : List StateUse} {left : Option Nat} (address : Nat) :
    StateTrace none inside left →
      StateTrace none (inside ++ [.made (inside.map StateUse.address) address]) (some address)
  | append {before between after : Option Nat} {uses more : List StateUse} :
    StateTrace before uses between → StateTrace between more after →
      StateTrace before (uses ++ more) after

namespace StateTrace

variable {before after : Option Nat} {uses : List StateUse}

/-- State that exists is found by every use. -/
theorem settled (trace : StateTrace before uses after) {address : Nat}
    (set : before = some address) :
    after = some address ∧ ∀ use ∈ uses, use = .found address := by
  induction trace with
  | nothing state => exact ⟨set, by simp⟩
  | found other =>
    obtain rfl := Option.some.inj set
    exact ⟨rfl, by simp⟩
  | made other inside ih => cases set
  | append first second ihFirst ihSecond =>
    obtain ⟨between, firstFound⟩ := ihFirst set
    obtain ⟨after, secondFound⟩ := ihSecond between
    refine ⟨after, fun use member => ?_⟩
    rcases List.mem_append.mp member with here | there
    · exact firstFound use here
    · exact secondFound use there

/-- The state is the one that the last use returned. -/
theorem last (trace : StateTrace before uses after) :
    after = (uses.getLast?.map StateUse.address).or before := by
  induction trace with
  | nothing state => rfl
  | found address => rfl
  | made address inside ih => simp [StateUse.address]
  | append first second ihFirst ihSecond =>
    rw [ihSecond, ihFirst, List.getLast?_append, Option.map_or, Option.or_assoc]

/-- A value that is stored after a use has returned was given by an initializer with such a use. -/
theorem fresh_of_kept (trace : StateTrace before uses after)
    (kept : uses.Pairwise fun _ later => ¬ later.Makes) :
    ∀ inside address, .made inside address ∈ uses → inside = [] := by
  induction trace with
  | nothing state => simp
  | found address => simp
  | @made uses left made trace ih =>
    obtain ⟨keptInside, -, last⟩ := List.pairwise_append.mp kept
    intro inside address member
    rcases List.mem_append.mp member with within | own
    · exact ih keptInside inside address within
    · obtain ⟨rfl, rfl⟩ := StateUse.made.inj (List.mem_singleton.mp own)
      cases uses with
      | nil => rfl
      | cons use rest =>
        exact absurd trivial (last use List.mem_cons_self _ List.mem_cons_self)
  | append first second ihFirst ihSecond =>
    obtain ⟨keptFirst, keptSecond, -⟩ := List.pairwise_append.mp kept
    intro inside address member
    rcases List.mem_append.mp member with here | there
    · exact ihFirst keptFirst inside address here
    · exact ihSecond keptSecond inside address there

/-- If no initializer whose value is stored has seen the state, the state is made once. -/
theorem once_of_fresh (trace : StateTrace before uses after)
    (fresh : ∀ inside address, .made inside address ∈ uses → inside = []) :
    StateUse.Once uses := by
  induction trace with
  | nothing state => exact ⟨by simp, .nil⟩
  | found address => exact ⟨by simp, List.pairwise_singleton _ _⟩
  | @made uses left address trace ih =>
    obtain rfl : uses = [] := List.map_eq_nil_iff.mp
      (fresh _ address (List.mem_append_right _ List.mem_cons_self))
    exact ⟨by simp, List.pairwise_singleton _ _⟩
  | @append before between after uses more first second ihFirst ihSecond =>
    have onceFirst := ihFirst fun inside address member =>
      fresh inside address (List.mem_append_left _ member)
    have onceSecond := ihSecond fun inside address member =>
      fresh inside address (List.mem_append_right _ member)
    cases ends : uses.getLast? with
    | none =>
      obtain rfl := List.getLast?_eq_none_iff.mp ends
      exact onceSecond
    | some use =>
      -- What comes later finds the state that the last use has returned.
      have left : between = some use.address := by rw [first.last, ends]; rfl
      obtain ⟨-, found⟩ := second.settled left
      have shared : ∀ other ∈ uses ++ more, other.address = use.address := by
        intro other member
        rcases List.mem_append.mp member with here | there
        · exact onceFirst.same other here use (List.mem_of_getLast? ends)
        · rw [found other there]
          rfl
      refine ⟨fun one here other there => (shared one here).trans (shared other there).symm, ?_⟩
      refine List.pairwise_append.mpr ⟨onceFirst.kept, onceSecond.kept, fun _ _ later there => ?_⟩
      rw [found later there]
      exact id

end StateTrace

/-! ### The uses in a run -/

namespace Account

variable (account : Account)

theorem state_asked (name : ArenaName) (layout : Layout) (bytes : List UInt8)
    (answer : Except Crash Region × Context) :
    (account.asked name layout bytes answer).context.state = answer.2.state := by
  rcases answer with ⟨crash | region, context⟩ <;> rfl

/-- A use of the state leaves what the context makes of it. -/
theorem context_ensureState (layout : Layout) (body : List ContextStep)
    (outcome : Context → Except Crash (Vector UInt8 layout.size)) :
    (account.perform (.ensureState layout body outcome)).context =
      (account.context.ensureState layout (account.initializer body outcome)).2 := by
  unfold perform
  dsimp only
  split <;> rfl

/-- A use of the state tells what it does if the uses in its initializer do. -/
theorem ensureState_trace (layout : Layout) (body : List ContextStep)
    (outcome : Context → Except Crash (Vector UInt8 layout.size))
    (inside : StateTrace account.context.state (account.usesIn body)
      (account.performAll body).context.state) :
    StateTrace account.context.state (account.usesOf (.ensureState layout body outcome))
      (account.perform (.ensureState layout body outcome)).context.state := by
  rw [context_ensureState]
  unfold usesOf
  cases set : account.context.state with
  | some address =>
    rw [Context.ensureState_of_some set]
    exact set.symm ▸ .found address
  | none =>
    rw [set] at inside
    cases given : outcome (account.performAll body).context with
    | error crash =>
      rw [Context.ensureState_of_error set (by rw [initializer, given]; rfl)]
      exact inside
    | ok data =>
      have made : account.initializer body outcome account.context =
          (.ok data.toArray, (account.performAll body).context) := by
        rw [initializer, given]
        rfl
      rcases stored : (account.performAll body).context.storeMem layout data.toArray with
        ⟨crash | region, after⟩
      · rw [Context.ensureState_of_refused set made stored]
        have same : after.state = (account.performAll body).context.state :=
          congrArg (·.2.state) stored.symm
        exact same ▸ inside
      · rw [Context.ensureState_of_stored set made stored]
        exact inside.made region.address

mutual

theorem perform_trace (account : Account) : (step : ContextStep) → step.Keeps →
    StateTrace account.context.state (account.usesOf step) (account.perform step).context.state
  | .openTick wake, _ => .nothing _
  | .closeTick, _ => .nothing _
  | .freshId, _ => .nothing _
  | .reserve arena layout, _ => by
    unfold usesOf perform
    rw [state_asked]
    cases arena <;> exact .nothing _
  | .store arena layout data, _ => by
    unfold usesOf perform
    rw [state_asked]
    cases arena <;> exact .nothing _
  | .ensureState layout body outcome, kept =>
    account.ensureState_trace layout body outcome (performAll_trace account body kept)
  | .write region offset data, _ => by
    unfold usesOf perform
    split <;> exact .nothing _

theorem performAll_trace (account : Account) :
    (steps : List ContextStep) → ContextStep.KeepAll steps →
      StateTrace account.context.state (account.usesIn steps)
        (account.performAll steps).context.state
  | [], _ => .nothing _
  | step :: rest, kept =>
    .append (perform_trace account step kept.1)
      (performAll_trace (account.perform step) rest kept.2)

end

/-- A step that returns an address is the last use in it. -/
theorem getLast?_usesOf {step : ContextStep} {address : Nat}
    (answered : account.answer? step = some address) :
    (account.usesOf step).getLast?.map StateUse.address = some address := by
  cases step with
  | ensureState layout body outcome =>
    simp only [answer?] at answered
    unfold usesOf
    dsimp only
    cases answer : (account.context.ensureState layout (account.initializer body outcome)).1 with
    | error crash => rw [answer] at answered; cases answered
    | ok returned =>
      rw [answer] at answered
      obtain rfl := Option.some.inj answered
      cases account.context.state with
      | some found => rfl
      | none => simp [StateUse.address]
  | _ => cases answered

/-- Every address that is returned outside of initializers is that of the state in the end. -/
theorem performAll_answers (steps : List ContextStep) (kept : ContextStep.KeepAll steps) :
    ∀ address ∈ account.answersIn steps,
      (account.performAll steps).context.state = some address := by
  induction steps generalizing account with
  | nil => exact fun address member => absurd member List.not_mem_nil
  | cons step rest ih =>
    intro address member
    rcases List.mem_append.mp member with here | later
    · have set : (account.perform step).context.state = some address := by
        rw [(account.perform_trace step kept.1).last,
          account.getLast?_usesOf (Option.mem_toList.mp here), Option.some_or]
      exact (((account.perform step).performAll_trace rest kept.2).settled set).1
    · exact ih (account.perform step) kept.2 address later

/-- **What uses of the application state return.** Whatever a context holds, and whatever is done
with it short of dropping the state, nested uses in initializers included: if there is state, every
use finds it and none stores a value; all uses that are not nested return one address, which is that
of the state in the end; and the state in the end is what the last use returned, if any did. All
uses return the same address, and none stores a value after another has returned, exactly if no
initializer whose value was stored has used the state itself. -/
theorem performAll_uses_state (steps : List ContextStep) (kept : ContextStep.KeepAll steps) :
    let uses := account.usesIn steps
    let left := (account.performAll steps).context.state
    (∀ address, account.context.state = some address →
        left = some address ∧ ∀ use ∈ uses, use = .found address) ∧
      (∀ address ∈ account.answersIn steps, left = some address) ∧
      left = (uses.getLast?.map StateUse.address).or account.context.state ∧
      (StateUse.Once uses ↔ ∀ inside address, .made inside address ∈ uses → inside = []) := by
  intro uses left
  have trace : StateTrace account.context.state uses left := account.performAll_trace steps kept
  exact ⟨fun address => trace.settled, account.performAll_answers steps kept, trace.last,
    fun once => trace.fresh_of_kept once.kept, trace.once_of_fresh⟩

/-- An initializer reserves memory beside the state; a second one has nothing to do. -/
theorem performAll_uses_state_beside :
    let account := new [] 0 .discarding .spaced
    let steps : List ContextStep :=
      [.ensureState Action.wordLayout [.reserve .mem Action.wordLayout] fun _ =>
          .ok #v[1, 0, 0, 0, 0, 0, 0, 0],
        .ensureState Action.wordLayout [] fun _ => .ok #v[2, 0, 0, 0, 0, 0, 0, 0]]
    ContextStep.KeepAll steps ∧ StateUse.Once (account.usesIn steps) ∧
      (account.performAll steps).context.state = some (chunkSize + 8) := by
  intro account steps
  have kept : ContextStep.KeepAll steps := by simp [steps, ContextStep.KeepAll, ContextStep.Keeps]
  obtain ⟨-, answers, -, once⟩ := performAll_uses_state account steps kept
  have uses : account.usesIn steps = [.made [] (chunkSize + 8), .found (chunkSize + 8)] := by
    decide
  refine ⟨kept, once.mpr ?_, answers _ (by decide)⟩
  rw [uses]
  simp

/-- The state is made twice, at two addresses, if its initializer makes it. -/
theorem performAll_makes_twice :
    let account := new [] 0 .discarding .spaced
    let first := 3 * chunkSize
    ContextStep.KeepAll nestedSteps ∧
      account.usesIn nestedSteps = [.made [] first, .made [first] (first + 8)] ∧
      ¬ StateUse.Once (account.usesIn nestedSteps) := by
  intro account first
  have uses : account.usesIn nestedSteps = [.made [] first, .made [first] (first + 8)] := by
    decide
  refine ⟨by simp [nestedSteps, ContextStep.KeepAll, ContextStep.Keeps], uses, fun once => ?_⟩
  have same := once.same _ (uses ▸ List.mem_cons_self) _
    (uses ▸ List.mem_cons_of_mem _ List.mem_cons_self)
  exact absurd same (by decide)

end Account

end LiveReload
