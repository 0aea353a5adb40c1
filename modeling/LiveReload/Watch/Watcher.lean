/-
**Waiting for a change.**

A wait receives notifications until its deadline. A relevant event moves the deadline to one
debounce span after it was received, so a burst of events ends one wait and a wait ends only after a
quiet span. Errors are recorded; several in a row, or the end of the channel, make the watcher
unreliable for good.

Time passes only while a wait lasts. A notification that is due is received before the deadline is
looked at.

* `Watcher.receive`: one notification;
* `Watcher.awaitChange`: one wait.
-/
import LiveReload.Log
import LiveReload.Power
import LiveReload.Watch.Notification

namespace LiveReload

/-- The state of a watcher between waits. -/
structure Watcher where
  config : WatchSettings
  /-- How many errors came since the last event. -/
  errors : Nat
  /-- Changes may go unnoticed. -/
  degraded : Bool
deriving DecidableEq, Repr

/-- What a wait leaves behind. -/
structure Wait where
  /-- Whether there was a change. -/
  answer : Except Crash Bool
  watcher : Watcher
  channel : Channel
  /-- When the wait was over. -/
  now : Instant
  records : List Record

namespace Watcher

/-- A watcher that has received nothing. -/
def new (config : WatchSettings) : Watcher := ⟨config, 0, false⟩

/-- A record of a watcher. -/
def say (severity : Severity) (text : String) : Record :=
  ⟨severity, "ember_io::watcher", text⟩

/-- The record of a relevant event. -/
def eventRecord (event : Event) : Record :=
  say .trace s!"Change detected: {event.kind.debug} {Path.debugList event.paths}"

/-- The record of an error. -/
def errorRecord (error : BackendError) : Record :=
  say .warn s!"File watcher error: {error.message}"

/-- The record of a watcher that becomes unreliable by errors. -/
def streakRecord (errors : Nat) : Record :=
  say .error
    s!"File watcher failed {errors} times in a row, change detection is unreliable"

/-- The record of a watcher that becomes unreliable by the end of its channel. -/
def closedRecord : Record :=
  say .error "File watcher channel closed, changes will no longer be detected"

/-- The first number of errors in a row that is not counted. -/
def countLimit : Nat := 2 ^ 32

/-- Counts an error. -/
def countError (watcher : Watcher) (error : BackendError) :
    Except Crash (List Record × Watcher) :=
  let errors := watcher.errors + 1
  if countLimit ≤ errors then .error .overflow
  else if !watcher.degraded && watcher.config.maxConsecutiveErrors ≤ errors then
    .ok ([errorRecord error, streakRecord errors], { watcher with errors, degraded := true })
  else .ok ([errorRecord error], { watcher with errors })

/-- Receives a notification; answers whether it is a relevant event. -/
def receive (watcher : Watcher) : Notification → Except Crash (Bool × List Record × Watcher)
  | .event event =>
    let watcher := { watcher with errors := 0 }
    if event.isRelevant watcher.config then .ok (true, [eventRecord event], watcher)
    else .ok (false, [], watcher)
  | .failure error =>
    match watcher.countError error with
    | .error crash => .error crash
    | .ok (records, watcher) => .ok (false, records, watcher)

/-- Finds the channel closed. -/
def recordClosed (watcher : Watcher) : List Record × Watcher :=
  if watcher.degraded then ([], watcher) else ([closedRecord], { watcher with degraded := true })

/-- The sender goes away before the deadline. -/
def closesBy (closing : Option Instant) (deadline : Instant) : Bool :=
  closing.any fun instant => instant.nanos ≤ deadline.nanos

/-- Receives what arrives until the deadline; `changed` tells whether a relevant event was received
before. -/
def waitUntil (closing : Option Instant) (watcher : Watcher) (now deadline : Instant)
    (changed : Bool) : List Delivery → Wait
  | [] =>
    let (records, watcher) :=
      if closesBy closing deadline then watcher.recordClosed else ([], watcher)
    ⟨.ok changed, watcher, ⟨[], closing⟩, deadline, records⟩
  | delivery :: rest =>
    if deadline.nanos < delivery.instant.nanos then
      ⟨.ok changed, watcher, ⟨delivery :: rest, closing⟩, deadline, []⟩
    else
      let now := Instant.latest now delivery.instant
      match watcher.receive delivery.notification with
      | .error crash => ⟨.error crash, watcher, ⟨rest, closing⟩, now, []⟩
      | .ok (false, records, watcher) =>
        let wait := waitUntil closing watcher now deadline changed rest
        { wait with records := records ++ wait.records }
      | .ok (true, records, watcher) =>
        match now.after watcher.config.debounce with
        | .error crash => ⟨.error crash, watcher, ⟨rest, closing⟩, now, records⟩
        | .ok deadline =>
          let wait := waitUntil closing watcher now deadline true rest
          { wait with records := records ++ wait.records }

/-- Waits for a relevant event, for at most `timeout` if there is none. -/
def awaitChange (watcher : Watcher) (channel : Channel) (now : Instant) (timeout : Span) :
    Wait :=
  match now.after timeout with
  | .error crash => ⟨.error crash, watcher, channel, now, []⟩
  | .ok deadline => waitUntil channel.closing watcher now deadline false channel.deliveries

/-- Waits for as long as the configuration says. -/
def poll (watcher : Watcher) (channel : Channel) (now : Instant) : Wait :=
  watcher.awaitChange channel now watcher.config.pollTimeout

end Watcher

end LiveReload
