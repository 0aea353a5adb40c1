/-
**The reload loop with a watcher, step by step.**

Notifications are delivered by a thread of their own, at any moment: before a build and during it,
while the module runs, before a wait, between two receives, and between the last receive and the end
of the wait. A schedule says what happens next, in the thread that reports or in the loop, and
`Host.watched` lets the reload loop run by it: every call to the host leaves room for deliveries
before it and during it, and a wait is the receive loop of the watcher taken step by step.

A wait is over when its deadline passes; a receive looks into the inbox first, so this is seen only
after the inbox was found empty. When deadlines pass is up to the schedule.

* `Move`, `Round`, `Scene`: a schedule, a tick with its wait, and all that is noted of a run;
* `Scene.act`, `Scene.listen`: a call to the host, and the receive loop;
* `Scene.Passes`: what the calls of a tick leave (`act_passes`);
* `Scene.Heard`: what a wait leaves (`listen_heard`).
-/
import LiveReload.Reload.Reloader
import LiveReload.Watch.Watcher
import Mathlib.Data.List.Basic

namespace LiveReload

/-! ### What is noted of a run -/

/-- What can happen next. -/
inductive Move
  | deliver (notification : Notification)
  /-- The sender goes away. -/
  | hangUp
  /-- The loop takes a step. -/
  | proceed
  /-- The deadline of a wait passes. -/
  | expire

/-- What happened in a tick or a wait. -/
inductive WatchEvent
  | delivered (notification : Notification)
  | consumed (notification : Notification)
  | buildBegan
  | buildEnded
  | callBegan
  | callEnded

/-- What was delivered, in order. -/
def deliveredIn (events : List WatchEvent) : List Notification :=
  events.filterMap fun
    | .delivered notification => some notification
    | _ => none

/-- What was consumed, in order. -/
def consumedIn (events : List WatchEvent) : List Notification :=
  events.filterMap fun
    | .consumed notification => some notification
    | _ => none

@[simp] theorem deliveredIn_append (events more : List WatchEvent) :
    deliveredIn (events ++ more) = deliveredIn events ++ deliveredIn more :=
  List.filterMap_append

@[simp] theorem consumedIn_append (events more : List WatchEvent) :
    consumedIn (events ++ more) = consumedIn events ++ consumedIn more :=
  List.filterMap_append

/-- A tick, the wait after it, and the answer of the wait. -/
structure Round where
  tick : List WatchEvent
  wait : List WatchEvent
  changed : Bool

/-- All that happened in a round. -/
def Round.events (round : Round) : List WatchEvent := round.tick ++ round.wait

/-- Between the sender and the watcher. -/
structure Inbox where
  /-- Delivered and not consumed. -/
  queue : List Notification
  /-- The sender is there. -/
  isOpen : Bool

/-- The world of a loop with its watcher, what is to happen, and what happened. -/
structure Scene (W : Type) where
  world : W
  watcher : Watcher
  inbox : Inbox
  schedule : List Move
  /-- The rounds that are over. -/
  rounds : List Round
  /-- What happened since. -/
  tick : List WatchEvent
  /-- What happened in a wait that is not over. -/
  wait : List WatchEvent

variable {V W α : Type}

/-! ### Receives -/

namespace Watcher

/-- Counting an error leaves the configuration. -/
theorem countError_config {watcher after : Watcher} {error : BackendError} {records : List Record}
    (counted : watcher.countError error = .ok (records, after)) :
    after.config = watcher.config := by
  unfold countError at counted
  dsimp only at counted
  split_ifs at counted <;>
    · obtain ⟨_, rfl⟩ := Prod.mk.inj (Except.ok.inj counted)
      rfl

/-- A receive tells whether the notification was relevant and leaves the configuration. -/
theorem receive_relevant {watcher after : Watcher} {notification : Notification} {relevant : Bool}
    {records : List Record}
    (received : watcher.receive notification = .ok (relevant, records, after)) :
    relevant = notification.isRelevant watcher.config ∧ after.config = watcher.config := by
  cases notification with
  | event event =>
    unfold receive Notification.isRelevant at *
    dsimp only at received ⊢
    split at received
    · next counts =>
      obtain ⟨rfl, _, rfl⟩ := by simpa using received
      exact ⟨counts.symm, rfl⟩
    · next passes =>
      obtain ⟨rfl, _, rfl⟩ := by simpa using received
      exact ⟨(Bool.eq_false_iff.mpr passes).symm, rfl⟩
  | failure error =>
    unfold receive at received
    dsimp only at received
    split at received
    · cases received
    · next records' after' counted =>
      obtain ⟨rfl, _, rfl⟩ := by simpa using received
      exact ⟨rfl, countError_config counted⟩

/-- One receive of a wait that answers. Only a relevant notification moves the deadline. -/
theorem waitUntil_received {watcher : Watcher} {closing : Option Instant} {now deadline : Instant}
    {changed answer : Bool} {delivery : Delivery} {later : List Delivery}
    (due : delivery.instant.nanos ≤ deadline.nanos)
    (answered : (watcher.waitUntil closing now deadline changed (delivery :: later)).answer =
      .ok answer) :
    ∃ relevant records after restarted,
      watcher.receive delivery.notification = .ok (relevant, records, after) ∧
      (if relevant then (Instant.latest now delivery.instant).after after.config.debounce
        else .ok deadline) = .ok restarted ∧
      watcher.waitUntil closing now deadline changed (delivery :: later) =
        { after.waitUntil closing (Instant.latest now delivery.instant) restarted
            (changed || relevant) later with
          records := records ++
            (after.waitUntil closing (Instant.latest now delivery.instant) restarted
              (changed || relevant) later).records } := by
  rw [waitUntil, if_neg (Nat.not_lt.mpr due)] at answered ⊢
  rcases received : watcher.receive delivery.notification with
    crash | ⟨_ | _, records, after⟩
  · simp [received] at answered
  · exact ⟨false, records, after, deadline, rfl, rfl, by simp⟩
  · rcases moved : (Instant.latest now delivery.instant).after after.config.debounce with
      crash | restarted
    · simp [received, moved] at answered
    · exact ⟨true, records, after, restarted, rfl, moved, by simp [moved]⟩

/-- Finding the channel closed leaves the configuration. -/
theorem recordClosed_config (watcher : Watcher) :
    watcher.recordClosed.2.config = watcher.config := by
  unfold recordClosed
  split <;> rfl

end Watcher

/-! ### Deliveries -/

namespace Inbox

/-- What the sender does in a move; no one delivers after it went away. -/
def after (inbox : Inbox) : Move → Inbox × List WatchEvent
  | .deliver notification =>
    if inbox.isOpen then
      ({ inbox with queue := inbox.queue ++ [notification] }, [.delivered notification])
    else (inbox, [])
  | .hangUp => ({ inbox with isOpen := false }, [])
  | .proceed => (inbox, [])
  | .expire => (inbox, [])

/-- What the sender does before the loop takes its next step, and what is to happen then. -/
def untilStep (inbox : Inbox) : List Move → (Inbox × List WatchEvent) × List Move
  | [] => ((inbox, []), [])
  | .proceed :: rest => ((inbox, []), rest)
  | move :: rest =>
    let (inbox, events) := inbox.after move
    let ((inbox, more), left) := inbox.untilStep rest
    ((inbox, events ++ more), left)

/-- Deliveries go to the end of the queue, and nothing else happens. -/
structure Delivers (before after : Inbox) (events : List WatchEvent) : Prop where
  queue : after.queue = before.queue ++ deliveredIn events
  unheard : consumedIn events = []
  unbuilt : .buildBegan ∉ events

theorem Delivers.nothing (inbox : Inbox) : Delivers inbox inbox [] :=
  ⟨(List.append_nil _).symm, rfl, List.not_mem_nil⟩

theorem Delivers.trans {before between after : Inbox} {events more : List WatchEvent}
    (first : Delivers before between events) (second : Delivers between after more) :
    Delivers before after (events ++ more) where
  queue := by rw [second.queue, first.queue, deliveredIn_append, List.append_assoc]
  unheard := by rw [consumedIn_append, first.unheard, second.unheard, List.append_nil]
  unbuilt := by
    rw [List.mem_append]
    exact not_or.mpr ⟨first.unbuilt, second.unbuilt⟩

theorem after_delivers (inbox : Inbox) (move : Move) :
    Delivers inbox (inbox.after move).1 (inbox.after move).2 := by
  cases move with
  | deliver notification =>
    unfold after
    cases inbox.isOpen with
    | true => exact ⟨rfl, rfl, by simp⟩
    | false => exact .nothing inbox
  | hangUp => exact ⟨(List.append_nil _).symm, rfl, List.not_mem_nil⟩
  | proceed => exact .nothing inbox
  | expire => exact .nothing inbox

theorem untilStep_delivers (inbox : Inbox) (schedule : List Move) :
    Delivers inbox (inbox.untilStep schedule).1.1 (inbox.untilStep schedule).1.2 := by
  induction schedule generalizing inbox with
  | nil => exact .nothing inbox
  | cons move rest ih =>
    cases move with
    | proceed => exact .nothing inbox
    | deliver notification => exact (inbox.after_delivers (.deliver notification)).trans (ih _)
    | hangUp => exact (inbox.after_delivers .hangUp).trans (ih _)
    | expire => exact (inbox.after_delivers .expire).trans (ih _)

end Inbox

/-! ### Calls to the host -/

namespace Scene

/-- Notes what happens in a tick. -/
def note (scene : Scene W) (events : List WatchEvent) : Scene W :=
  { scene with tick := scene.tick ++ events }

/-- The sender runs until the loop takes its next step. -/
def attend (scene : Scene W) : Scene W :=
  let ((inbox, events), schedule) := scene.inbox.untilStep scene.schedule
  { scene with inbox, schedule, tick := scene.tick ++ events }

/-- The loop acts on the world. The sender runs before that, and again while it lasts. -/
def act (scene : Scene W) (began ended : List WatchEvent) (action : W → α × W) : α × Scene W :=
  let scene := (scene.attend.note began).attend
  let (answer, world) := action scene.world
  (answer, { scene with world }.note ended)

/-- Events of a tick, which take nothing from the queue. -/
structure Passes (before after : Scene W) (made : List WatchEvent) : Prop where
  tick : after.tick = before.tick ++ made
  queue : after.inbox.queue = before.inbox.queue ++ deliveredIn made
  watcher : after.watcher = before.watcher
  rounds : after.rounds = before.rounds
  wait : after.wait = before.wait

namespace Passes

theorem nothing (scene : Scene W) : Passes scene scene [] :=
  ⟨(List.append_nil _).symm, (List.append_nil _).symm, rfl, rfl, rfl⟩

theorem trans {before between after : Scene W} {made more : List WatchEvent}
    (first : Passes before between made) (second : Passes between after more) :
    Passes before after (made ++ more) where
  tick := by rw [second.tick, first.tick, List.append_assoc]
  queue := by rw [second.queue, first.queue, deliveredIn_append, List.append_assoc]
  watcher := second.watcher.trans first.watcher
  rounds := second.rounds.trans first.rounds
  wait := second.wait.trans first.wait

end Passes

theorem attend_passes (scene : Scene W) :
    ∃ made, Passes scene scene.attend made ∧ .buildBegan ∉ made := by
  have delivers := scene.inbox.untilStep_delivers scene.schedule
  exact ⟨_, ⟨rfl, delivers.queue, rfl, rfl, rfl⟩, delivers.unbuilt⟩

theorem note_passes (scene : Scene W) {events : List WatchEvent}
    (undelivered : deliveredIn events = []) : Passes scene (scene.note events) events := by
  refine ⟨rfl, ?_, rfl, rfl, rfl⟩
  rw [undelivered, List.append_nil]
  rfl

/-- A call begins a build if it is said to. -/
theorem act_passes (scene : Scene W) (began ended : List WatchEvent) (action : W → α × W)
    (plain : deliveredIn (began ++ ended) = []) :
    ∃ made, Passes scene (scene.act began ended action).2 made ∧
      (.buildBegan ∈ made ↔ .buildBegan ∈ began ++ ended) := by
  rw [deliveredIn_append, List.append_eq_nil_iff] at plain
  obtain ⟨first, before, quiet⟩ := scene.attend_passes
  obtain ⟨second, during, still⟩ := (scene.attend.note began).attend_passes
  let acted : Scene W :=
    { (scene.attend.note began).attend with
      world := (action (scene.attend.note began).attend.world).2 }
  have same : Passes (scene.attend.note began).attend acted [] :=
    ⟨(List.append_nil _).symm, (List.append_nil _).symm, rfl, rfl, rfl⟩
  have passes := (before.trans (note_passes _ plain.1)).trans
    ((during.trans same).trans (acted.note_passes plain.2))
  refine ⟨_, passes, ?_⟩
  simp [quiet, still]

/-! ### The receive loop -/

/-- Notes what happens in a wait. -/
def hear (scene : Scene W) (events : List WatchEvent) : Scene W :=
  { scene with wait := scene.wait ++ events }

/-- The watcher goes on, with records of its own. -/
def tell (host : Host W) (scene : Scene W) (records : List Record) (watcher : Watcher) : Scene W :=
  { scene with
    watcher, world := records.foldl (fun world record => host.record record world) scene.world }

/-- A notification is taken from the front; `queue` is what is left. -/
def consume (scene : Scene W) (notification : Notification) (queue : List Notification) :
    Scene W :=
  { scene with inbox.queue := queue }.hear [.consumed notification]

/-- The inbox is found empty; if the sender is gone the watcher says so. -/
def findEmpty (host : Host W) (scene : Scene W) : Scene W :=
  if scene.inbox.isOpen then scene
  else scene.tell host scene.watcher.recordClosed.1 scene.watcher.recordClosed.2

/-- A wait is over. -/
def endRound (scene : Scene W) (changed : Bool) : Scene W :=
  { scene with
    rounds := scene.rounds ++ [⟨scene.tick, scene.wait, changed⟩], tick := [], wait := [] }

/-- Receives until the deadline passes. `changed` tells whether a relevant event was received,
`quiet` whether the inbox was found empty since the last receive. -/
def listen (host : Host W) (changed quiet : Bool) (scene : Scene W) :
    List Move → Option Bool × Scene W
  | [] => (none, { scene with schedule := [] })
  | .proceed :: rest =>
    match scene.inbox.queue with
    | [] => (scene.findEmpty host).listen host changed true rest
    | notification :: queue =>
      match scene.watcher.receive notification with
      | .error _ => (none, { scene.consume notification queue with schedule := rest })
      | .ok (relevant, records, watcher) =>
        ((scene.consume notification queue).tell host records watcher).listen host
          (changed || relevant) false rest
  | .expire :: rest =>
    if quiet then (some changed, { scene with schedule := rest }.endRound changed)
    else scene.listen host changed quiet rest
  | move :: rest =>
    let (inbox, events) := scene.inbox.after move
    ({ scene with inbox }.hear events).listen host changed quiet rest

/-- Everything that a wait leaves: what it consumed came from the front of the queue, and if it was
not cut short its answer tells whether that was relevant and all that waited before was consumed. -/
structure Heard (before after : Scene W) (changed quiet : Bool) (answer : Option Bool)
    (during : List WatchEvent) : Prop where
  queue : consumedIn during ++ after.inbox.queue = before.inbox.queue ++ deliveredIn during
  config : after.watcher.config = before.watcher.config
  unbuilt : .buildBegan ∉ during
  cut : answer = none →
    after.rounds = before.rounds ∧ after.tick = before.tick ∧ after.wait = before.wait ++ during
  ended : ∀ told ∈ answer,
    after.rounds = before.rounds ++ [⟨before.tick, before.wait ++ during, told⟩] ∧
      after.tick = [] ∧ after.wait = []
  told : ∀ told ∈ answer,
    told = (changed || (consumedIn during).any (·.isRelevant before.watcher.config))
  drained : answer ≠ none → quiet = false → before.inbox.queue <+: consumedIn during

/-- One step of a wait. -/
structure Hears (before after : Scene W) (events : List WatchEvent) : Prop where
  queue : consumedIn events ++ after.inbox.queue = before.inbox.queue ++ deliveredIn events
  config : after.watcher.config = before.watcher.config
  unbuilt : .buildBegan ∉ events
  rounds : after.rounds = before.rounds
  tick : after.tick = before.tick
  wait : after.wait = before.wait ++ events

/-- A step and the rest of the wait. An inbox that is found empty holds back nothing. -/
theorem Heard.step {before between after : Scene W} {changed now quiet still : Bool}
    {answer : Option Bool} {events during : List WatchEvent} (hears : Hears before between events)
    (heard : Heard between after now still answer during)
    (relevant : now =
      (changed || (consumedIn events).any (·.isRelevant before.watcher.config)))
    (looked : quiet = false → before.inbox.queue = [] ∨ still = false) :
    Heard before after changed quiet answer (events ++ during) where
  queue := by
    rw [consumedIn_append, deliveredIn_append, List.append_assoc, heard.queue,
      ← List.append_assoc, hears.queue, List.append_assoc]
  config := heard.config.trans hears.config
  unbuilt := by
    rw [List.mem_append]
    exact not_or.mpr ⟨hears.unbuilt, heard.unbuilt⟩
  cut := by
    intro none
    obtain ⟨rounds, tick, wait⟩ := heard.cut none
    refine ⟨rounds.trans hears.rounds, tick.trans hears.tick, ?_⟩
    rw [wait, hears.wait, List.append_assoc]
  ended := by
    intro told member
    obtain ⟨rounds, tick, wait⟩ := heard.ended told member
    refine ⟨?_, tick, wait⟩
    rw [rounds, hears.rounds, hears.tick, hears.wait, List.append_assoc]
  told := by
    intro told member
    rw [heard.told told member, relevant, hears.config, consumedIn_append, List.any_append,
      Bool.or_assoc]
  drained := by
    intro answered loud
    rw [consumedIn_append]
    rcases looked loud with empty | loud'
    · rw [empty]
      exact List.nil_prefix
    · have front : before.inbox.queue <+: consumedIn events ++ between.inbox.queue :=
        ⟨_, hears.queue.symm⟩
      exact front.trans ((List.prefix_append_right_inj _).mpr (heard.drained answered loud'))

/-- A wait that is cut short here. -/
theorem Heard.cutShort (scene : Scene W) (changed quiet : Bool) (schedule : List Move) :
    Heard scene { scene with schedule } changed quiet none [] where
  queue := (List.append_nil _).symm
  config := rfl
  unbuilt := List.not_mem_nil
  cut := fun _ => ⟨rfl, rfl, (List.append_nil _).symm⟩
  ended := fun _ told => nomatch told
  told := fun _ told => nomatch told
  drained := fun answered => absurd rfl answered

/-- A receive takes one notification from the front. -/
theorem consume_hears {scene : Scene W} {notification : Notification} {queue : List Notification}
    (front : scene.inbox.queue = notification :: queue) :
    Hears scene (scene.consume notification queue) [.consumed notification] where
  queue := by
    rw [front]
    exact (List.append_nil _).symm
  config := rfl
  unbuilt := by simp
  rounds := rfl
  tick := rfl
  wait := rfl

/-- Records and counters of the watcher are not in what is heard. -/
theorem Hears.tell {before after : Scene W} {events : List WatchEvent}
    (hears : Hears before after events) (host : Host W) (records : List Record) {watcher : Watcher}
    (config : watcher.config = before.watcher.config) :
    Hears before (after.tell host records watcher) events :=
  { hears with config }

theorem findEmpty_hears (host : Host W) (scene : Scene W) :
    Hears scene (scene.findEmpty host) [] := by
  have nothing : Hears scene scene [] :=
    ⟨(List.append_nil _).symm, rfl, List.not_mem_nil, rfl, rfl, (List.append_nil _).symm⟩
  unfold findEmpty
  split
  · exact nothing
  · exact nothing.tell host _ scene.watcher.recordClosed_config

/-- The sender's moves are heard as they happen. -/
theorem after_hears (scene : Scene W) (move : Move) :
    Hears scene ({ scene with inbox := (scene.inbox.after move).1 }.hear (scene.inbox.after move).2)
      (scene.inbox.after move).2 where
  queue := by
    rw [(scene.inbox.after_delivers move).unheard]
    exact (scene.inbox.after_delivers move).queue
  config := rfl
  unbuilt := (scene.inbox.after_delivers move).unbuilt
  rounds := rfl
  tick := rfl
  wait := rfl

/-- **What a wait leaves**, whatever is delivered while it lasts. -/
theorem listen_heard (host : Host W) (changed quiet : Bool) (scene : Scene W)
    (schedule : List Move) :
    ∃ during, Heard scene (scene.listen host changed quiet schedule).2 changed quiet
      (scene.listen host changed quiet schedule).1 during := by
  induction schedule generalizing scene changed quiet with
  | nil => exact ⟨[], .cutShort scene changed quiet []⟩
  | cons move rest ih =>
    cases move with
    | deliver notification =>
      obtain ⟨during, heard⟩ := ih changed quiet
        ({ scene with inbox := (scene.inbox.after (.deliver notification)).1 }.hear
          (scene.inbox.after (.deliver notification)).2)
      refine ⟨_, heard.step (scene.after_hears _) ?_ fun loud => .inr loud⟩
      rw [(scene.inbox.after_delivers _).unheard, List.any_nil, Bool.or_false]
    | hangUp =>
      obtain ⟨during, heard⟩ := ih changed quiet
        ({ scene with inbox := (scene.inbox.after .hangUp).1 }.hear [])
      exact ⟨_, heard.step (scene.after_hears .hangUp) (Bool.or_false _).symm fun loud => .inr loud⟩
    | expire =>
      unfold listen
      -- Before the inbox was found empty the deadline goes unnoticed.
      cases quiet with
      | false => exact ih changed false scene
      | true =>
        rw [if_pos rfl]
        refine ⟨[], ⟨(List.append_nil _).symm, rfl, List.not_mem_nil, ?_, ?_, ?_, ?_⟩⟩
        · exact fun none => nomatch none
        · intro told member
          rw [← Option.mem_some_iff.mp member, List.append_nil]
          exact ⟨rfl, rfl, rfl⟩
        · intro told member
          rw [← Option.mem_some_iff.mp member]
          exact (Bool.or_false _).symm
        · exact fun _ loud => nomatch loud
    | proceed =>
      cases front : scene.inbox.queue with
      | nil =>
        simp only [listen, front]
        obtain ⟨during, heard⟩ := ih changed true (scene.findEmpty host)
        have hears := scene.findEmpty_hears host
        exact ⟨_, heard.step hears (Bool.or_false _).symm fun _ => .inl front⟩
      | cons notification queue =>
        have hears := consume_hears front
        rcases received : scene.watcher.receive notification with
          error | ⟨relevant, records, watcher⟩
        · simp only [listen, front, received]
          exact ⟨_, (Heard.cutShort _ _ false rest).step hears rfl fun _ => .inr rfl⟩
        · simp only [listen, front, received]
          obtain ⟨same, config⟩ := Watcher.receive_relevant received
          obtain ⟨during, heard⟩ := ih (changed || relevant) false
            ((scene.consume notification queue).tell host records watcher)
          refine ⟨_, heard.step (hears.tell host records config) ?_ fun _ => .inr rfl⟩
          rw [same]
          simp [consumedIn]

end Scene

/-- The host of a loop that is run by a schedule and waits for its watcher. -/
def Host.watched (host : Host W) : Host (Scene W) where
  record record scene := (scene.act [] [] fun world => ((), host.record record world)).2
  build input scene := scene.act [.buildBegan] [.buildEnded] (host.build input)
  load path scene := scene.act [] [] (host.load path)
  callMain address context scene :=
    scene.act [.callBegan] [.callEnded] (host.callMain address context)
  callInit address scene := scene.act [] [] (host.callInit address)
  callUpdate address state scene :=
    scene.act [.callBegan] [.callEnded] (host.callUpdate address state)
  wait _ scene := scene.attend.listen host false false scene.attend.schedule

end LiveReload
