/-
**Module output.**

Modules print through a sink, which may take a text in pieces, be interrupted, or fail. A text is
offered again until the sink has taken all of it; an interruption is no failure, taking nothing is.

* `Sink.offer`: one text against a sink, and `Sink.offerAll`: the pieces of a format, one by one;
* `Output.put`: a text for whoever wants to know the outcome;
* `Output.printAll`: a format for whoever does not, with a log record when the sink failed.
-/
import LiveReload.Fault.Basic
import LiveReload.Log
import LiveReload.Text.Utf8

namespace LiveReload

/-- What a sink does with the bytes of one call. -/
inductive SinkReply
  | takeAll
  | take (most : Nat)
  | fail (fault : Fault)
  | crash (crash : Crash)
deriving Repr

/-- How offering a text ended. -/
inductive Offer
  | taken
  | failed (fault : Fault)
  | crashed (crash : Crash)
deriving DecidableEq, Repr

/-- What a sink took, how often it was called to write, and how it answers the calls to come; calls
after the last reply take everything. -/
structure Sink where
  replies : List SinkReply
  taken : Array UInt8
  calls : Nat

namespace Sink

/-- A sink that takes everything. -/
def unlimited : Sink := ⟨[], #[], 0⟩

/-- The fault of a sink that takes nothing of a text. -/
def tookNothing : Fault := .worded .writeZero "failed to write whole buffer"

/-- Offers what is left of a text until `replies` runs out; answers the outcome, the bytes that were
taken, the replies that are left and the number of calls. -/
def drive : List SinkReply → List UInt8 → Offer × List UInt8 × List SinkReply × Nat
  | replies, [] => (.taken, [], replies, 0)
  | [], bytes => (.taken, bytes, [], 1)
  | .takeAll :: replies, bytes => (.taken, bytes, replies, 1)
  | .take most :: replies, bytes =>
    if most = 0 then (.failed tookNothing, [], replies, 1)
    else
      let (offer, taken, left, calls) := drive replies (bytes.drop most)
      (offer, bytes.take most ++ taken, left, calls + 1)
  | .fail fault :: replies, bytes =>
    if fault.isInterruption then
      let (offer, taken, left, calls) := drive replies bytes
      (offer, taken, left, calls + 1)
    else (.failed fault, [], replies, 1)
  | .crash crash :: replies, _ => (.crashed crash, [], replies, 1)

/-- Offers all bytes of a text. -/
def offer (sink : Sink) (bytes : List UInt8) : Offer × Sink :=
  let (offer, taken, left, calls) := drive sink.replies bytes
  (offer, ⟨left, sink.taken ++ taken.toArray, sink.calls + calls⟩)

/-- Offers texts one after the other until one does not get through. -/
def offerAll : List String → Sink → Offer × Sink
  | [], sink => (.taken, sink)
  | text :: texts, sink =>
    match sink.offer (Utf8.encode text) with
    | (.taken, sink) => offerAll texts sink
    | (offer, sink) => (offer, sink)

/-- Asks the sink to pass on what it took; only a fault among the replies makes that fail. -/
def flush (sink : Sink) : Option Fault × Sink :=
  match sink.replies with
  | [] => (none, sink)
  | .fail fault :: replies => (some fault, { sink with replies })
  | _ :: replies => (none, { sink with replies })

end Sink

/-- Where module output goes. -/
inductive Output
  | discarding
  | writing (sink : Sink)

namespace Output

/-- Offers a text to the sink. -/
def put (text : String) : Output → Offer × Output
  | discarding => (.taken, discarding)
  | writing sink =>
    let (offer, sink) := sink.offer (Utf8.encode text)
    (offer, writing sink)

/-- Asks the sink to pass on what it took. -/
def flush : Output → Option Fault × Output
  | discarding => (none, discarding)
  | writing sink =>
    let (fault, sink) := sink.flush
    (fault, writing sink)

/-- Offers texts one after the other until one does not get through. -/
def putAll : List String → Output → Offer × Output
  | [], output => (.taken, output)
  | text :: texts, output =>
    match output.put text with
    | (.taken, output) => putAll texts output
    | (offer, output) => (offer, output)

/-- The part of the program that output records come from. -/
def source : String := "ember_core::output"

/-- The record of a text that did not get through. -/
def failure (fault : Fault) : Record :=
  ⟨.warn, source, s!"Failed to write module output: {fault.message}"⟩

/-- Offers the pieces of a format to the sink and reports a failure to the log alone. -/
def printAll (pieces : List String) : Output → Option Crash × List Record × Output
  | discarding => (none, [], discarding)
  | writing sink =>
    match sink.offerAll pieces with
    | (.taken, sink) => (none, [], writing sink)
    | (.failed fault, sink) => (none, [failure fault], writing sink)
    | (.crashed crash, sink) => (some crash, [], writing sink)

/-- Prints a text as it is, which is a format of one piece. -/
def print (text : String) (output : Output) : Option Crash × List Record × Output :=
  output.printAll [text]

/-- The bytes that reached the sink. -/
def taken : Output → Array UInt8
  | discarding => #[]
  | writing sink => sink.taken

/-- How often the sink was called to write. -/
def calls : Output → Nat
  | discarding => 0
  | writing sink => sink.calls

/-- An output in diagnostics. -/
def debug (_ : Output) : String := "Output \x7b .. \x7d"

end Output

end LiveReload
