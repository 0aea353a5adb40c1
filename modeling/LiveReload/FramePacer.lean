/-
**Frame pacing.**

A pacer is asked once a frame how long to sleep. The schedule advances by a fixed length each
time; a frame that comes too late is skipped and the schedule starts again from there.
-/
import LiveReload.Time

namespace LiveReload

/-- The length of a frame, when the next frame is due, and how many came too late. -/
structure FramePacer where
  length : Span
  next : Option Instant
  skips : Nat
deriving DecidableEq, Repr

namespace FramePacer

/-- A pacer that has not started. -/
def new (length : Span) : FramePacer := ⟨length, none, 0⟩

/-- A pacer of 120 frames a second. -/
def standard : FramePacer := new ⟨1000000000 / 120⟩

/-- The first number of late frames that is not counted. -/
def skipLimit : Nat := 2 ^ 32

/-- Counts a frame that came too late at `now`. -/
def skip (pacer : FramePacer) (now : Instant) : Except Crash Span × FramePacer :=
  let skips := pacer.skips + 1
  if skipLimit ≤ skips then (.error .overflow, { pacer with next := some now })
  else (.ok .zero, { pacer with next := some now, skips })

/-- The time to sleep from `now` until the next frame. -/
def advance (pacer : FramePacer) (now : Instant) : Except Crash Span × FramePacer :=
  let start := pacer.next.getD now
  match start.after pacer.length with
  | .error crash => (.error crash, { pacer with next := some start })
  | .ok due =>
    if due.nanos < now.nanos then pacer.skip now
    else (.ok (due.since now), { pacer with next := some due })

end FramePacer

end LiveReload
