/-
**The counter demo.**

A module that counts its invocations. The count is application state, so it goes on when the module
is replaced; so does the number of generations that were loaded.

* `Counter.tick`: one invocation of the module.
-/
import LiveReload.Context.Basic

namespace LiveReload

/-- The application state of the counter. -/
structure Counter where
  value : UInt64
  loads : UInt32
deriving DecidableEq, Repr

namespace Counter

/-- The layout of the state. -/
def layout : Layout := ⟨16, 8, Layout.word_aligns, by decide⟩

/-- The state as bytes: the value, the loads, and four bytes that say nothing. -/
def bytes (counter : Counter) : Array UInt8 :=
  (littleEndian 8 counter.value.toNat ++ littleEndian 4 counter.loads.toNat ++
    littleEndian 4 0).toArray

/-- The state at an address. -/
def readFrom (context : Context) (address : Nat) : Counter :=
  { value := UInt64.ofNat (ofLittleEndian (context.readAt address 8))
    loads := UInt32.ofNat (ofLittleEndian (context.readAt (address + 8) 4)) }

/-- The state of a counter that was never invoked. -/
def initial : Counter := ⟨0, 0⟩

/-- How far one invocation counts. -/
def step : UInt64 := 1

/-- The text before the count. -/
def label : String := "count"

/-- The argument that makes the counter end after one invocation. -/
def onceArgument : String := "--once"

/-- The delay that the counter asks for. -/
def wakeDelay : Span := .ofMillis 500

/-- The record of a new generation. -/
def loadRecord (loads : UInt32) (tick : Nat) : Record :=
  ⟨.info, "counter", s!"Counter load #{loads.toNat} at tick {tick}"⟩

/-- Counts the generation if it is new. -/
def noticeReload (reloaded : Bool) (counter : Counter) : Counter :=
  if reloaded then { counter with loads := counter.loads + 1 } else counter

/-- What an invocation prints, in the pieces it is printed in. -/
def line (value : UInt64) : List String := [label, ": ", toString value.toNat, "\n"]

/-- Ends an invocation: asks to exit if it was told to, and for the next invocation. -/
def conclude (context : Context) : Context :=
  let asked := if context.args.contains onceArgument then context.askExit 0 else context
  asked.askWake wakeDelay

/-- One invocation: what made it fail, if anything did, what it recorded, and the context. -/
def tick (context : Context) : Option Crash × List Record × Context :=
  match context.ensureState layout fun context => (.ok initial.bytes, context) with
  | (.error crash, context) => (some crash, [], context)
  | (.ok address, context) =>
    let counter := noticeReload context.reloaded (readFrom context address)
    let records := if context.reloaded then [loadRecord counter.loads context.tick] else []
    let counter := { counter with value := counter.value + step }
    let context := context.writeAt address counter.bytes
    match Layout.of? label.utf8ByteSize 1 with
    | none => (none, records, context)
    | some layout =>
      match context.storeTmp layout label.toUTF8.data with
      | (.error crash, context) => (some crash, records, context)
      | (.ok _, context) =>
        match context.output.putAll (line counter.value) with
        | (.crashed crash, output) => (some crash, records, { context with output })
        | (_, output) => (none, records, conclude { context with output })

end Counter

end LiveReload
