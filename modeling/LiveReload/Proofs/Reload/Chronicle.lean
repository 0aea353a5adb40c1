/-
**A host that notes what the reload loop asks of it.**

The chronicle of a host answers as the host does and keeps every call with its answer. What a loop
did can then be told from the calls alone, without looking at the counters and flags that the loop
itself keeps.

* `Host.Covers`: a host does on one part of its world what another host does; ticks over the one
  are then ticks over the other (`tick_covers`);
* `Host.chronicled`: the host that notes its calls, which the loop cannot tell from the host it
  stands for (`performAll_plain`);
* `Reloader.tickCalls`: the calls of one tick, whatever was called before it (`tick_written`);
* `LoopStep`, `Reloader.performAll`: reports of changes and ticks, in any order.
-/
import LiveReload.Reload.Reloader

namespace LiveReload

variable {V W : Type}

/-! ### Hosts over a part of the world -/

/-- What `outer` does is what `inner` does on the part of the world that it sees; waits are left
out, since no tick waits. -/
structure Host.Covers (part : V → W) (outer : Host V) (inner : Host W) : Prop where
  record : ∀ record world, part (outer.record record world) = inner.record record (part world)
  build : ∀ input world,
    Prod.map id part (outer.build input world) = inner.build input (part world)
  load : ∀ path world, Prod.map id part (outer.load path world) = inner.load path (part world)
  callMain : ∀ address context world,
    Prod.map id part (outer.callMain address context world) =
      inner.callMain address context (part world)
  callInit : ∀ address world,
    Prod.map id part (outer.callInit address world) = inner.callInit address (part world)
  callUpdate : ∀ address state world,
    Prod.map id part (outer.callUpdate address state world) =
      inner.callUpdate address state (part world)

/-- A session that sees only a part of the world. -/
def Session.map (part : V → W) (session : Session V) : Session W :=
  ⟨session.reloader, session.context, part session.world⟩

@[simp] theorem Session.map_reloader (part : V → W) (session : Session V) :
    (session.map part).reloader = session.reloader := rfl

namespace Reloader

section Covers

variable {part : V → W} {outer : Host V} {inner : Host W}

theorem attempt_covers (covers : outer.Covers part inner) (reloader : Reloader) (world : V) :
    Prod.map id (Prod.map id part) (attempt outer reloader world) =
      attempt inner reloader (part world) := by
  unfold attempt
  rw [← covers.build]
  rcases outer.build reloader.input world with ⟨error | artifact, built⟩
  · rfl
  · simp only [Prod.map, id]
    rw [← covers.load]
    rcases outer.load artifact built with ⟨error | module, loaded⟩
    · rfl
    · simp only [Prod.map, id]
      cases EntryPoint.resolve module with
      | error error => rfl
      | ok entry => rfl

theorem initialize?_covers (covers : outer.Covers part inner) (state : Option Nat)
    (entry : EntryPoint) (world : V) :
    Prod.map id part (initialize? outer state entry world) =
      initialize? inner state entry (part world) := by
  cases entry with
  | main address => rfl
  | legacy init update =>
    cases state with
    | some state => rfl
    | none =>
      simp only [initialize?, ← covers.callInit]
      rfl

theorem reload_covers (covers : outer.Covers part inner) (session : Session V) :
    (reload outer session).map part = reload inner (session.map part) := by
  unfold reload
  simp only [Session.map]
  rw [← attempt_covers covers]
  rcases attempt outer session.reloader session.world with ⟨error | generation, stats, world⟩
  · simp only [Prod.map, id, covers.record]
  · simp only [Prod.map, id, covers.record]
    rw [← initialize?_covers covers]
    rfl

theorem reloadIfDue_covers (covers : outer.Covers part inner) (session : Session V) :
    (reloadIfDue outer session).map part = reloadIfDue inner (session.map part) := by
  unfold reloadIfDue
  rw [Session.map_reloader]
  by_cases due : (session.reloader.fresh || session.reloader.changed) = true
  · rw [if_pos due, if_pos due]
    exact reload_covers covers _
  · rw [if_neg due, if_neg due]

theorem invoke_covers (covers : outer.Covers part inner) (session : Session V) :
    Prod.map id (Session.map part) (invoke outer session) = invoke inner (session.map part) := by
  unfold invoke
  simp only [Session.map]
  cases session.reloader.active with
  | none => rfl
  | some generation =>
    cases entry : generation.entry with
    | main address =>
      simp only [entry, ← covers.callMain]
      rfl
    | legacy init update =>
      simp only [entry, ← covers.callUpdate]
      rfl

/-- **A tick over the larger world is a tick over its part.** -/
theorem tick_covers (covers : outer.Covers part inner) (session : Session V) :
    Prod.map id (Session.map part) (tick outer session) = tick inner (session.map part) := by
  unfold tick
  rw [← reloadIfDue_covers covers]
  simp only [Session.map]
  have called := invoke_covers covers
    ⟨(reloadIfDue outer session).reloader,
      (reloadIfDue outer session).context.openTick (reloadIfDue outer session).reloader.defaultWake,
      (reloadIfDue outer session).world⟩
  simp only [Session.map] at called
  rw [← called]
  rfl

end Covers

/-! ### Reports and ticks in any order -/

end Reloader

/-- What can happen to a reloader from outside. -/
inductive LoopStep
  /-- A change is reported. -/
  | notify
  | tick
deriving DecidableEq, Repr

namespace Reloader

/-- One step. -/
def perform (host : Host W) (session : Session W) : LoopStep → Session W
  | .notify => notifySession session
  | .tick => (tick host session).2

/-- Steps in order. -/
def performAll (host : Host W) (session : Session W) (steps : List LoopStep) : Session W :=
  steps.foldl (perform host) session

/-- What every step keeps, every sequence of steps keeps. -/
theorem performAll_keeps {host : Host W} (kept : Session W → Prop)
    (step : ∀ session, kept session → ∀ step, kept (perform host session step))
    {session : Session W} (start : kept session) (steps : List LoopStep) :
    kept (performAll host session steps) := by
  induction steps generalizing session with
  | nil => exact start
  | cons first rest ih => exact ih (step session start first)

theorem performAll_covers {part : V → W} {outer : Host V} {inner : Host W}
    (covers : outer.Covers part inner) (session : Session V) (steps : List LoopStep) :
    (performAll outer session steps).map part = performAll inner (session.map part) steps := by
  induction steps generalizing session with
  | nil => rfl
  | cons first rest ih =>
    have one : (perform outer session first).map part = perform inner (session.map part) first := by
      cases first with
      | notify => rfl
      | tick => exact congrArg Prod.snd (tick_covers covers session)
    show (performAll outer (perform outer session first) rest).map part =
      performAll inner (perform inner (session.map part) first) rest
    rw [ih, one]

end Reloader

/-! ### The chronicle -/

/-- What comes after a place in two histories lies in the second or reaches into it. -/
theorem split_append {α : Type} {first second early later : List α} {item : α}
    (whole : first ++ second = early ++ item :: later) :
    (∃ between, early = first ++ between ∧ second = between ++ item :: later) ∨
      ∃ between, first = early ++ item :: between ∧ later = between ++ second := by
  rcases List.append_eq_append_iff.mp whole with ⟨between, front, back⟩ | ⟨between, front, back⟩
  · exact .inl ⟨between, front, back⟩
  · cases between with
    | nil => exact .inl ⟨[], by rw [front, List.append_nil, List.append_nil], by rw [back]; rfl⟩
    | cons other between =>
      obtain ⟨rfl, rfl⟩ := List.cons.inj back
      exact .inr ⟨between, front, rfl⟩

/-- A call to a host, with its answer. -/
inductive HostCall
  | record (record : Record)
  | build (input : Path) (answer : Except BuildError Path)
  | load (path : Path) (answer : Except LoadError Module)
  /-- A main function is given a context and leaves one. -/
  | callMain (address : Address) (given left : Context)
  | callInit (address : Address) (answer : Nat)
  | callUpdate (address : Address) (state : Nat) (answer : UInt32)
  | wait (delay : Span) (answer : Option Bool)

/-- The delay and the answer of a wait. -/
def HostCall.waited : HostCall → Option (Span × Option Bool)
  | wait delay answer => some (delay, answer)
  | _ => none

/-- A world and the calls that were made to its host, in order. -/
structure Chronicle (W : Type) where
  world : W
  calls : List HostCall

/-- Adds a call, after which the world is `world`. -/
def Chronicle.note (chronicle : Chronicle W) (call : HostCall) (world : W) : Chronicle W :=
  ⟨world, chronicle.calls ++ [call]⟩

/-- The host that notes every call. -/
def Host.chronicled (host : Host W) : Host (Chronicle W) where
  record record chronicle :=
    chronicle.note (.record record) (host.record record chronicle.world)
  build input chronicle :=
    let answer := host.build input chronicle.world
    (answer.1, chronicle.note (.build input answer.1) answer.2)
  load path chronicle :=
    let answer := host.load path chronicle.world
    (answer.1, chronicle.note (.load path answer.1) answer.2)
  callMain address context chronicle :=
    let answer := host.callMain address context chronicle.world
    (answer.1, chronicle.note (.callMain address context answer.1) answer.2)
  callInit address chronicle :=
    let answer := host.callInit address chronicle.world
    (answer.1, chronicle.note (.callInit address answer.1) answer.2)
  callUpdate address state chronicle :=
    let answer := host.callUpdate address state chronicle.world
    (answer.1, chronicle.note (.callUpdate address state answer.1) answer.2)
  wait delay chronicle :=
    let answer := host.wait delay chronicle.world
    (answer.1, chronicle.note (.wait delay answer.1) answer.2)

theorem Host.chronicled_callMain (host : Host W) {address : Address} {context after : Context}
    {chronicle : Chronicle W} {world : W}
    (called : host.callMain address context chronicle.world = (after, world)) :
    host.chronicled.callMain address context chronicle =
      (after, chronicle.note (.callMain address context after) world) := by
  simp only [chronicled, called]

theorem Host.chronicled_covers (host : Host W) :
    host.chronicled.Covers Chronicle.world host where
  record _ _ := rfl
  build _ _ := rfl
  load _ _ := rfl
  callMain _ _ _ := rfl
  callInit _ _ := rfl
  callUpdate _ _ _ := rfl

/-- A session whose world has no calls noted yet. -/
def Session.unwritten (session : Session W) : Session (Chronicle W) :=
  ⟨session.reloader, session.context, ⟨session.world, []⟩⟩

/-- **Noting the calls changes nothing**: without the calls, what is left is the loop over the
host itself. -/
theorem Reloader.performAll_plain (host : Host W) (session : Session W) (steps : List LoopStep) :
    (performAll host.chronicled session.unwritten steps).map Chronicle.world =
      performAll host session steps :=
  performAll_covers host.chronicled_covers session.unwritten steps

/-! ### The calls of one tick -/

/-- A session whose world has these calls noted already. -/
def Session.written (session : Session W) (calls : List HostCall) : Session (Chronicle W) :=
  ⟨session.reloader, session.context, ⟨session.world, calls⟩⟩

/-- The host that notes its calls does not look at those that are noted already. -/
theorem Host.chronicled_covers_written (host : Host W) (earlier : List HostCall) :
    host.chronicled.Covers (fun chronicle => ⟨chronicle.world, earlier ++ chronicle.calls⟩)
      host.chronicled := by
  constructor <;> intros <;>
    simp only [chronicled, Chronicle.note, Prod.map, id, List.append_assoc]

namespace Reloader

/-- The calls that a tick makes. -/
def tickCalls (host : Host W) (session : Session W) : List HostCall :=
  (tick host.chronicled session.unwritten).2.world.calls

/-- **A tick adds its calls to those before it.** -/
theorem tick_written (host : Host W) (session : Session W) (earlier : List HostCall) :
    tick host.chronicled (session.written earlier) =
      ((tick host session).1,
        (tick host session).2.written (earlier ++ tickCalls host session)) := by
  have plain := tick_covers host.chronicled_covers session.unwritten
  have later := tick_covers (host.chronicled_covers_written earlier) session.unwritten
  have start : session.unwritten.map
      (fun chronicle : Chronicle W => ⟨chronicle.world, earlier ++ chronicle.calls⟩) =
        session.written earlier := by
    simp only [Session.map, Session.unwritten, Session.written, List.append_nil]
  rw [start] at later
  rw [← later, tickCalls, show tick host session = _ from plain.symm]
  rfl

/-- No tick waits. -/
theorem tickCalls_unwaited (host : Host W) (session : Session W) :
    (tickCalls host session).filterMap HostCall.waited = [] := by
  -- A chronicle without its waits is told of all that a tick does.
  have covers : host.chronicled.Covers (fun chronicle : Chronicle W =>
      ⟨chronicle.world, chronicle.calls.filter fun call => call.waited.isNone⟩)
      host.chronicled := by
    constructor <;> intros <;>
      simp [Host.chronicled, Chronicle.note, HostCall.waited]
  have same : (tickCalls host session).filter (fun call => call.waited.isNone) =
      tickCalls host session :=
    congrArg (fun ticked : NextStep × Session (Chronicle W) => ticked.2.world.calls)
      (tick_covers covers session.unwritten)
  refine List.filterMap_eq_nil_iff.mpr fun call member => ?_
  exact Option.isNone_iff_eq_none.mp (List.filter_eq_self.mp same call member)

end Reloader

end LiveReload
