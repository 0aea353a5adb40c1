/-
**What a module does with its context.**

An `Action` is one request that a module makes of its context, and `Action.perform` what the context
answers. The application state that actions use is one word of 64 bits.
-/
import LiveReload.Context.Basic
import LiveReload.Text.Utf8

namespace LiveReload

/-- The two arenas of a context. -/
inductive ArenaName
  | mem
  | tmp
deriving DecidableEq, Repr

/-- A draw from the random stream. -/
inductive Draw
  | word
  | double
  | bytes (count : Nat)
deriving DecidableEq, Repr

/-- How application state is made the first time. -/
inductive Origin
  /-- A given value. -/
  | value (value : UInt64)
  /-- The next identifier. -/
  | identifier
  /-- One more than application state that is made from a value meanwhile. -/
  | nested (value : UInt64)
deriving DecidableEq, Repr

/-- A request of a module to its context. -/
inductive Action
  | freshId
  | setId (id : UInt32)
  | askWake (delay : Span)
  | openTick (wake : Span)
  | closeTick
  | askExit (code : Int)
  | app (origin : Origin)
  | addToApp (origin : UInt64) (amount : UInt64)
  | appOwned
  | dropState
  | allocate (arena : ArenaName) (size align : Nat)
  | storeText (arena : ArenaName) (text : String)
  | draw (draw : Draw)
  | print (text : String)
  | args
  | setFrameLength (length : Span)
  | pace (now : Instant)
  | forwardLogging
  | debug

/-- What a context answers to a request. -/
inductive Answer
  | nothing
  | number (value : Nat)
  | word (value : UInt64)
  | flag (value : Bool)
  | text (value : String)
  | texts (values : List String)
  | bytes (values : List UInt8)
  | schedule (wake : Span) (skips : Nat)
  | invalidLayout
  | crashed (crash : Crash)
  | picture (context : Context)

namespace Action

/-- The layout of a word of 64 bits. -/
def wordLayout : Layout := ⟨8, 8, Layout.word_aligns, by decide⟩

/-- The bytes of a word of 64 bits. -/
def wordBytes (value : UInt64) : Array UInt8 := (littleEndian 8 value.toNat).toArray

/-- The word of 64 bits at an address. -/
def wordAt (context : Context) (address : Nat) : UInt64 :=
  UInt64.ofNat (ofLittleEndian (context.readAt address 8))

/-- The initializer that makes a given value. -/
def giveValue (value : UInt64) : Context.Initializer :=
  fun context => (.ok (wordBytes value), context)

/-- The initializer of an origin. -/
def initializer : Origin → Context.Initializer
  | .value value => giveValue value
  | .identifier => fun context =>
    let (id, context) := context.freshId
    (.ok (wordBytes id.toUInt64), context)
  | .nested value => fun context =>
    match context.ensureState wordLayout (giveValue value) with
    | (.error crash, context) => (.error crash, context)
    | (.ok address, context) =>
      let next := (wordAt context address).toNat + 1
      if next < UInt64.size then (.ok (wordBytes (.ofNat next)), context)
      else (.error .overflow, context)

/-- The layout of a text. -/
def textLayout? (text : String) : Option Layout := Layout.of? text.utf8ByteSize 1

/-- Reserves bytes in one of the arenas. -/
def allocateIn (context : Context) (layout : Layout) : ArenaName → Except Crash Region × Context
  | .mem => context.allocateMem layout
  | .tmp => context.allocateTmp layout

/-- Stores bytes in one of the arenas. -/
def storeIn (context : Context) (layout : Layout) (data : Array UInt8) :
    ArenaName → Except Crash Region × Context
  | .mem => context.storeMem layout data
  | .tmp => context.storeTmp layout data

/-- How far the head of one of the arenas is used. -/
def cursorOf (context : Context) : ArenaName → Nat
  | .mem => context.mem.cursor
  | .tmp => context.tmp.cursor

/-- Performs a draw. -/
def performDraw (context : Context) : Draw → Answer × Context
  | .word =>
    let (word, random) := context.random.word
    (.number word.toNat, { context with random })
  | .double =>
    let (double, random) := context.random.double
    (.word double, { context with random })
  | .bytes count =>
    let (bytes, random) := context.random.bytes count
    (.bytes bytes, { context with random })

/-- Uses the application state, made from `origin` if there is none. -/
def useApp (context : Context) (origin : Origin) (use : Nat → Context → Answer × Context) :
    Answer × Context :=
  match context.ensureState wordLayout (initializer origin) with
  | (.error crash, context) => (.crashed crash, context)
  | (.ok address, context) => use address context

/-- Performs a request, with what it logs. -/
def perform (context : Context) : Action → Answer × List Record × Context
  | freshId =>
    let (id, context) := context.freshId
    (.number id.toNat, [], context)
  | setId id => (.nothing, [], { context with id })
  | askWake delay => (.nothing, [], context.askWake delay)
  | openTick wake => (.nothing, [], context.openTick wake)
  | closeTick => (.nothing, [], context.closeTick)
  | askExit code => (.nothing, [], context.askExit code)
  | app origin =>
    let (answer, context) := useApp context origin fun address context =>
      (.word (wordAt context address), context)
    (answer, [], context)
  | addToApp origin amount =>
    let (answer, context) := useApp context (.value origin) fun address context =>
      let sum := wordAt context address + amount
      (.word sum, context.writeAt address (wordBytes sum))
    (answer, [], context)
  | appOwned =>
    let owned := match context.state with
      | some address => context.mem.owns address
      | none => false
    (.flag owned, [], context)
  | dropState => (.nothing, [], context.dropState)
  | allocate arena size align =>
    match Layout.of? size align with
    | none => (.invalidLayout, [], context)
    | some layout =>
      match allocateIn context layout arena with
      | (.error crash, context) => (.crashed crash, [], context)
      | (.ok _, context) => (.number (cursorOf context arena), [], context)
  | storeText arena text =>
    match textLayout? text with
    | none => (.invalidLayout, [], context)
    | some layout =>
      match storeIn context layout text.toUTF8.data arena with
      | (.error crash, context) => (.crashed crash, [], context)
      | (.ok region, context) =>
        (.text (Utf8.decodeLossy (context.readAt region.address region.size)), [], context)
  | draw kind =>
    let (answer, context) := performDraw context kind
    (answer, [], context)
  | print text =>
    let (crash, records, context) := context.print text
    (match crash with
      | none => .nothing
      | some crash => .crashed crash, records, context)
  | args => (.texts context.args, [], context)
  | setFrameLength length =>
    (.nothing, [], { context with pacer := { context.pacer with length } })
  | pace now =>
    match context.pace now with
    | (some crash, context) => (.crashed crash, [], context)
    | (none, context) => (.schedule context.wakeDelay context.pacer.skips, [], context)
  | forwardLogging => (.flag false, [], context)
  | debug => (.picture context, [], context)

/-- A request for memory leaves what its arena leaves, or nothing new if there is no such layout. -/
theorem perform_allocate (context : Context) (arena : ArenaName) (size align : Nat) :
    (perform context (.allocate arena size align)).2.2 =
      ((Layout.of? size align).map fun layout =>
        (allocateIn context layout arena).2).getD context := by
  simp only [perform]
  cases Layout.of? size align with
  | none => rfl
  | some layout =>
    simp only [Option.map_some, Option.getD_some]
    rcases allocateIn context layout arena with ⟨crash | region, after⟩ <;> rfl

/-- A request to store a text leaves what its arena leaves, or nothing new if it is too long. -/
theorem perform_storeText (context : Context) (arena : ArenaName) (text : String) :
    (perform context (.storeText arena text)).2.2 =
      ((textLayout? text).map fun layout =>
        (storeIn context layout text.toUTF8.data arena).2).getD context := by
  simp only [perform]
  cases textLayout? text with
  | none => rfl
  | some layout =>
    simp only [Option.map_some, Option.getD_some]
    rcases storeIn context layout text.toUTF8.data arena with ⟨crash | region, after⟩ <;> rfl

end Action

end LiveReload
