/-
**Spans of time and instants.**

A `Span` is a length of time and an `Instant` a point on a clock that only moves forward, both in
nanoseconds. The clock counts its seconds in a signed word of 64 bits, so an instant too far ahead
does not exist: `Instant.after` refuses to name it.

* `Span.debug` writes a span with the largest unit that leaves a whole part;
* `Span.seconds` writes it in seconds with two places.
-/
import LiveReload.Decimal.Rounded
import LiveReload.Fault.Basic

namespace LiveReload

/-- A length of time in nanoseconds. -/
structure Span where
  nanos : Nat
deriving DecidableEq, Repr, Inhabited

namespace Span

-- The literals come first: products unfold from the right, and none should count down from one.
/-- A span in milliseconds. -/
def ofMillis (millis : Nat) : Span := ⟨1000000 * millis⟩

/-- A span in seconds. -/
def ofSeconds (seconds : Nat) : Span := ⟨1000000000 * seconds⟩

/-- No time. -/
def zero : Span := ⟨0⟩

/-- `whole` and `part / 10^places` of a unit, without zeros at the end. -/
def inUnit (whole part places : Nat) (unit : String) : String :=
  let digits := (toString part).toList
  let padded := List.replicate (places - digits.length) '0' ++ digits
  let shown := (padded.reverse.dropWhile (· = '0')).reverse
  toString whole ++ (if shown.isEmpty then "" else "." ++ String.ofList shown) ++ unit

/-- A span in seconds, milliseconds, microseconds or nanoseconds, whichever is the largest unit of
which it holds one. -/
def debug (span : Span) : String :=
  let n := span.nanos
  if 1000000000 ≤ n then inUnit (n / 1000000000) (n % 1000000000) 9 "s"
  else if 1000000 ≤ n then inUnit (n / 1000000) (n % 1000000) 6 "ms"
  else if 1000 ≤ n then inUnit (n / 1000) (n % 1000) 3 "µs"
  else inUnit n 0 0 "ns"

/-- A span in seconds, to the nearest hundredth. -/
def seconds (span : Span) : String :=
  let hundredths := Decimal.nearestWhole span.nanos 10000000
  s!"{hundredths / 100}.{hundredths / 10 % 10}{hundredths % 10}s"

end Span

/-- A point on a clock, in nanoseconds since its start. -/
structure Instant where
  nanos : Nat
deriving DecidableEq, Repr, Inhabited

namespace Instant

/-- The first count of nanoseconds whose seconds need more than a signed word. -/
def limit : Nat := 2 ^ 63 * 1000000000

/-- What adding a span to an instant answers when the clock cannot reach the sum. -/
def outOfReach : Crash := ⟨"overflow when adding duration to instant"⟩

/-- The instant `span` after `start`, if the clock can reach it. -/
def after (start : Instant) (span : Span) : Except Crash Instant :=
  if start.nanos + span.nanos < limit then .ok ⟨start.nanos + span.nanos⟩ else .error outOfReach

/-- The time from `earlier` to `later`, none if `later` is not later. -/
def since (later earlier : Instant) : Span := ⟨later.nanos - earlier.nanos⟩

/-- The later of two instants. -/
def latest (a b : Instant) : Instant := if a.nanos ≤ b.nanos then b else a

theorem after_eq_ok_iff {start sum : Instant} {span : Span} :
    start.after span = .ok sum ↔
      start.nanos + span.nanos < limit ∧ sum.nanos = start.nanos + span.nanos := by
  rcases sum with ⟨nanos⟩
  unfold after
  constructor
  · intro answered
    split at answered
    · rename_i reachable
      cases answered
      exact ⟨reachable, rfl⟩
    · cases answered
  · rintro ⟨reachable, same⟩
    simp only at same
    rw [if_pos reachable, same]

end Instant

end LiveReload
