/-
**The counter counts on.**

A run in which every generation that comes up exports the counter as its main function. Generations
come and go and attempts fail in between, but the counter prints one number after the other: its
state is made once and found again by every generation after that. A generation is noticed in its
first invocation and in no other, and the memory of the context never grows past the two chunks that
the first invocation took.

* `Host.withCounter`: a host whose modules run the counter at certain addresses;
* `Counter.Kept`: what the context holds after so many invocations and generations;
* `Continuing`: this, and what was printed, between any two steps (`performAll_continuing`);
* `performAll_counts`: every line, every record of the counter, and the memory after every tick.
-/
import LiveReload.Module.Failure
import LiveReload.Proofs.Demo.CounterTick
import LiveReload.Proofs.Reload.ReloadedFlag
import LiveReload.Reload.Rehearsal

namespace LiveReload

variable {V W : Type}

/-! ### Hosts with the counter -/

/-- The host with the counter as the main function at these addresses. Its records go to the log of
the host; if it failed, that would be settled as for every module. -/
def Host.withCounter (host : Host W) (counters : Address → Bool) : Host W :=
  { host with
    callMain := fun address context world =>
      if counters address then
        let (crash, records, context) := Counter.tick context
        let (more, context) := match crash with
          | none => ([], context)
          | some crash => ModuleFailure.settle "counter" crash context
        (context, (records ++ more).foldl (fun world record => host.record record world) world)
      else host.callMain address context world }

theorem Host.Covers.withCounter {part : V → W} {outer : Host V} {inner : Host W}
    (covers : outer.Covers part inner) (counters : Address → Bool) :
    (outer.withCounter counters).Covers part (inner.withCounter counters) where
  record := covers.record
  build := covers.build
  load := covers.load
  callInit := covers.callInit
  callUpdate := covers.callUpdate
  callMain := by
    intro address context world
    unfold Host.withCounter
    by_cases counter : counters address = true
    · simp only [counter, if_true]
      refine Prod.ext rfl ?_
      show part (List.foldl _ world _) = List.foldl _ (part world) _
      rw [List.foldl_hom part]
      exact fun world record => (covers.record record world).symm
    · simp only [counter]
      exact covers.callMain address context world

/-- The host with the counter, which notes the calls of the loop beside what the log is told. -/
abbrev Host.counting (host : Host W) (counters : Address → Bool) :
    Host (Chronicle (Chronicle W)) :=
  (host.chronicled.withCounter counters).chronicled

theorem Host.callMain_of_tick (host : Host W) {counters : Address → Bool} {address : Address}
    {context after : Context} {records : List Record} (counter : counters address = true)
    (ticked : Counter.tick context = (none, records, after)) (world : W) :
    (host.withCounter counters).callMain address context world =
      (after, records.foldl (fun world record => host.record record world) world) := by
  simp only [withCounter, counter, if_true, ticked, List.append_nil]

/-- The counter in a rehearsal. -/
def rehearsedCounter (address : Address) : Bool := Routine.at? address = some .counter

/-- A rehearsal runs the counter as the host with the counter does, unless it was ended. -/
theorem Rehearsal.callMain_of_tick {address : Address} {context after : Context}
    {records : List Record} (counter : rehearsedCounter address = true)
    (ticked : Counter.tick context = (none, records, after)) {stage : Rehearsal}
    (running : stage.ended = none) :
    host.callMain address context stage =
      (host.withCounter rehearsedCounter).callMain address context stage := by
  have routine : Routine.at? address = some .counter := of_decide_eq_true counter
  rw [host.callMain_of_tick counter ticked]
  show callMain address context stage = _
  simp only [callMain, running, routine, ticked, settle]
  rfl

/-- A rehearsal of the counter in which the second of three builds fails. -/
def rebuiltCounter : Rehearsal :=
  { Rehearsal.blank with
    builds := [some (.ok ⟨"first"⟩), some (.error (.unknownToolchain ⟨"counter"⟩)),
      some (.ok ⟨"second"⟩)]
    table := .ofMain ⟨4, by decide⟩ }

/-- The entry point is the counter. -/
def EntryPoint.isCounter (counters : Address → Bool) : EntryPoint → Bool
  | .main address => counters address
  | .legacy _ _ => false

/-- What was recorded in one part of the program. -/
def recordsOf (source : String) (calls : List HostCall) : List Record :=
  calls.filterMap fun
    | .record record => if record.source = source then some record else none
    | _ => none

theorem recordsOf_append (source : String) (calls more : List HostCall) :
    recordsOf source (calls ++ more) = recordsOf source calls ++ recordsOf source more :=
  List.filterMap_append ..

/-- How often a module was run for a tick. -/
def invocations (calls : List HostCall) : Nat := (calls.filter HostCall.isInvocation).length

/-- The line with a count, which is a word. -/
def countLine (count : Nat) : List UInt8 := Utf8.encode s!"count: {count % 2 ^ 64}\n"

/-! ### The counter from tick to tick -/

namespace Counter

/-- What the context holds after so many invocations, of so many generations. -/
def Kept (supply : ChunkSupply) (count loads : Nat) (context : Context) : Prop :=
  count = 0 ∧ loads = 0 ∧ Untouched supply context ∨
    0 < count ∧ 0 < loads ∧ context.chunks.systemAllocations = 2 ∧
      ∃ main scratch, Ready main scratch ⟨.ofNat count, .ofNat loads⟩ context

theorem next_ofNat (reloaded : Bool) (count loads : Nat) :
    next reloaded ⟨.ofNat count, .ofNat loads⟩ =
      ⟨.ofNat (count + 1), .ofNat (loads + reloaded.toNat)⟩ := by
  cases reloaded with
  | true => simp [next, noticeReload, step, UInt64.ofNat_add, UInt32.ofNat_add]
  | false => simp [next, noticeReload, step, UInt64.ofNat_add]

theorem line_eq (count : Nat) :
    (line (.ofNat count)).flatMap Utf8.encode = countLine count := by
  have word : (UInt64.ofNat count).toNat = count % 2 ^ 64 := UInt64.toNat_ofNat'
  unfold line countLine
  rw [word]
  simp only [List.flatMap_cons, List.flatMap_nil, List.append_nil, ← Utf8.encode_append]
  rfl

variable {supply : ChunkSupply} {count loads : Nat} {context : Context}

namespace Kept

theorem fresh (args : List String) (seed : UInt64) (output : Output) (supply : ChunkSupply) :
    Kept supply 0 0 (.new args seed output supply) :=
  .inl ⟨rfl, rfl, rfl, rfl, rfl, rfl, rfl, rfl, rfl⟩

theorem at_call (kept : Kept supply count loads context) (reloaded : Bool) (wakeDelay : Span) :
    Kept supply count loads { context with reloaded, wakeDelay } := by
  rcases kept with ⟨none, nothing, untouched⟩ | ⟨some, loaded, two, main, scratch, ready⟩
  · exact .inl ⟨none, nothing, untouched.state, untouched.mem, untouched.tmp, untouched.free,
      untouched.supply, untouched.requests, untouched.allocations⟩
  · exact .inr ⟨some, loaded, two, main, scratch, ready.state, ready.mem, ready.tmp, ready.held,
      ready.apart, ready.next⟩

/-- A tick that runs nothing leaves all as it is. -/
theorem idle (kept : Kept supply count 0 context) :
    Kept supply count 0 { context with reloaded := false }.closeTick := by
  rcases kept with ⟨none, loads, untouched⟩ | ⟨_, some, _⟩
  · refine .inl ⟨none, loads, ⟨untouched.state, untouched.mem, rfl, ?_, untouched.supply,
      untouched.requests, untouched.allocations⟩⟩
    show context.tmp.chunks.reverse.reverse ++ context.chunks.free = []
    rw [untouched.tmp, untouched.free]
    rfl
  · exact absurd some (Nat.lt_irrefl 0)

/-- The state is there or is made, as the system has memory for it. -/
theorem ensure (kept : Kept supply count loads context) (sound : supply.Sound)
    (first : supply.base 0 ≠ none) (second : supply.base 1 ≠ none) :
    ∃ main scratch ready, context.ensureState layout start = (.ok main.base, ready) ∧
      Ready main scratch ⟨.ofNat count, .ofNat loads⟩ ready ∧ Alike context ready := by
  rcases kept with ⟨rfl, rfl, untouched⟩ | ⟨_, _, _, main, scratch, ready⟩
  · obtain ⟨base, answer⟩ := Option.ne_none_iff_exists'.mp first
    obtain ⟨other, further⟩ := Option.ne_none_iff_exists'.mp second
    obtain ⟨ready, ensured, found, alike⟩ := ensure_of_untouched untouched sound answer further
    exact ⟨_, _, ready, ensured, found, alike⟩
  · exact ⟨main, scratch, context, ready.ensure, ready, rfl, rfl, rfl⟩

/-- **The invocation of a tick.** It counts one more, and one more generation if it is told of a new
one. -/
theorem tick (kept : Kept supply count loads context) (sound : supply.Sound)
    (first : supply.base 0 ≠ none) (second : supply.base 1 ≠ none) {sink : Sink}
    (output : context.output = .writing sink) (accepting : sink.Accepting)
    (told : 0 < loads + context.reloaded.toNat) :
    let heard := loads + context.reloaded.toNat
    ∃ after left,
      Counter.tick context =
        (none, if context.reloaded then [loadRecord (.ofNat heard) context.tick] else [], after) ∧
      Kept supply (count + 1) heard { after with reloaded := false }.closeTick ∧
      after.tick = context.tick ∧ after.output = .writing left ∧ left.Accepting ∧
      left.taken.toList = sink.taken.toList ++ countLine (count + 1) := by
  intro heard
  obtain ⟨main, scratch, ready, ensured, found, alike⟩ := kept.ensure sound first second
  obtain ⟨after, left, ticked, counted, tick, out, more, taken⟩ :=
    tick_of_ready ensured found alike output accepting
  rw [next_ofNat] at ticked counted taken
  rw [line_eq] at taken
  obtain ⟨again, two⟩ := counted.close
  exact ⟨after, left, ticked, .inr ⟨Nat.succ_pos _, told, two, main, scratch, again⟩, tick, out,
    more, taken⟩

/-- The memory between two ticks, once the counter was invoked. -/
theorem memory (kept : Kept supply count loads context) (some : 0 < count) :
    context.mem.size = 1 ∧ context.tmp.size = 0 ∧ context.chunks.stats.systemAllocations = 2 ∧
      ∃ address, context.state = .some address ∧ context.mem.owns address = true ∧
        readFrom context address = ⟨.ofNat count, .ofNat loads⟩ := by
  rcases kept with ⟨none, _⟩ | ⟨_, _, two, main, scratch, ready⟩
  · omega
  · have inside : main.contains main.base = true := by simp [Chunk.contains, chunkSize]
    refine ⟨?_, ?_, ?_, main.base, ready.state, ?_, readFrom_of_held ready.held⟩
    · rw [Arena.size, ready.mem, List.length_singleton]
    · rw [Arena.size, ready.tmp, List.length_nil]
    · rw [context.chunks.stats_counts.1, two]
    · rw [Arena.owns, ready.mem, List.any_cons, inside, Bool.true_or]

end Kept

end Counter

/-! ### The log of the counter -/

namespace Reloader

section Counting

variable (host : Host W) (counters : Address → Bool)

/-- Before the invocation nothing is recorded for the counter. -/
theorem atCall_unheard (session : Session (Chronicle (Chronicle W))) :
    recordsOf "counter"
        (atCall (host.counting counters) session).world.world.calls =
      recordsOf "counter" session.world.world.calls := by
  have silent : ∀ (chronicle : Chronicle W) (call : HostCall) (world : W),
      recordsOf "counter" [call] = [] →
        recordsOf "counter" (chronicle.note call world).calls =
          recordsOf "counter" chronicle.calls := by
    intro chronicle call world quiet
    rw [Chronicle.note, recordsOf_append, quiet, List.append_nil]
  -- The reload loop records under a name of its own.
  exact atCall_leaves (host.chronicled.withCounter counters).chronicled
    (fun chronicle => recordsOf "counter" chronicle.world.calls)
    (fun _ _ => silent _ _ _ rfl) (fun _ _ => silent _ _ _ rfl) (fun _ _ => silent _ _ _ rfl)
    (fun _ _ _ => silent _ _ _ rfl) session

theorem recordsOf_loadRecord (told : Bool) (loads tick : Nat) :
    recordsOf "counter"
        ((if told then [Counter.loadRecord (.ofNat loads) tick] else []).map .record) =
      if told then [⟨.info, "counter", s!"Counter load #{loads % 2 ^ 32} at tick {tick}"⟩]
      else [] := by
  have word : (UInt32.ofNat loads).toNat = loads % 2 ^ 32 := UInt32.toNat_ofNat'
  cases told with
  | true =>
    rw [Counter.loadRecord, word]
    rfl
  | false => rfl

theorem calls_of_records (records : List Record) (chronicle : Chronicle W) :
    (records.foldl (fun world record => host.chronicled.record record world) chronicle).calls =
      chronicle.calls ++ records.map .record := by
  induction records generalizing chronicle with
  | nil => exact (List.append_nil _).symm
  | cons record rest ih =>
    rw [List.foldl_cons, ih, List.map_cons, List.append_cons]
    rfl

end Counting

end Reloader

/-! ### Runs -/

/-- Between two steps: the context holds what the counter kept, and the sink, which takes every
text, has taken one line for each invocation. -/
structure Continuing (supply : ChunkSupply) (printed : List UInt8) (ticks : Nat)
    (session : Session (Chronicle (Chronicle W))) : Prop where
  good : LastGood session
  down : session.context.reloaded = false
  tick : session.context.tick = ticks
  kept : Counter.Kept supply (invocations session.world.calls)
    (goodEntries session.world.calls).length session.context
  output : ∃ sink, session.context.output = .writing sink ∧ sink.Accepting ∧
    sink.taken.toList = printed ++
      (List.range (invocations session.world.calls)).flatMap fun count => countLine (count + 1)

/-- What a tick does, which is the call of `made`, after `ticks` others. While nothing came up it
runs nothing. From then on it runs the counter once, which prints the number of invocations up to
now, and records the number of generations up to now if one came up in this tick. -/
structure CountsOn (ticks : Nat) (session next : Session (Chronicle (Chronicle W)))
    (made : List HostCall) : Prop where
  calls : next.world.calls = session.world.calls ++ made
  entries : goodEntries next.world.calls = goodEntries session.world.calls ++ goodEntries made
  invoked : invocations next.world.calls = invocations session.world.calls +
    if goodEntries next.world.calls = [] then 0 else 1
  printed : next.context.output.taken.toList = session.context.output.taken.toList ++
    if goodEntries next.world.calls = [] then [] else countLine (invocations next.world.calls)
  recorded : recordsOf "counter" next.world.world.calls =
    recordsOf "counter" session.world.world.calls ++
      if goodEntries made = [] then []
      else
        let loads := (goodEntries next.world.calls).length
        [⟨.info, "counter", s!"Counter load #{loads % 2 ^ 32} at tick {ticks}"⟩]

namespace Reloader

section Runs

variable (host : Host W) {counters : Address → Bool} {supply : ChunkSupply} {printed : List UInt8}
  {ticks : Nat} {session : Session (Chronicle (Chronicle W))}

theorem atCall_kept (counters : Address → Bool)
    (continuing : Continuing supply printed ticks session) :
    let called := atCall (host.counting counters) session
    Counter.Kept supply (invocations session.world.calls)
        (goodEntries session.world.calls).length called.context ∧
      called.context.tick = ticks ∧ called.context.output = session.context.output := by
  intro called
  obtain ⟨reloaded, wakeDelay, context⟩ := atCall_context (host.counting counters) session
  show Counter.Kept _ _ _ (atCall _ session).context ∧ (atCall _ session).context.tick = ticks ∧
    (atCall _ session).context.output = session.context.output
  rw [context]
  exact ⟨continuing.kept.at_call reloaded wakeDelay, continuing.tick, rfl⟩

/-- A tick invokes what is active after it, which is the last that came up. -/
theorem invocations_of_once {before made : List HostCall} {next : Session (Chronicle V)}
    (adds : Adds before next.world.calls made) (once : InvokedOnce next.reloader.active made)
    (good : LastGood next) :
    invocations next.world.calls =
      invocations before + if goodEntries next.world.calls = [] then 0 else 1 := by
  have parts : invocations next.world.calls = invocations before + invocations made := by
    rw [invocations, adds.calls, List.filter_append, List.length_append]
    rfl
  rw [parts]
  congr 1
  cases active : next.reloader.active with
  | none =>
    rw [active] at once
    rw [if_pos (good.unloaded_iff.mp active), invocations, once, List.length_nil]
  | some generation =>
    rw [active] at once
    obtain ⟨call, alone, _⟩ := once
    have loaded : goodEntries next.world.calls ≠ [] := by
      rw [Ne, ← good.unloaded_iff, active]
      exact Option.some_ne_none generation
    rw [if_neg loaded, invocations, alone, List.length_singleton]

/-- A tick before anything came up. -/
theorem tick_idle (continuing : Continuing supply printed ticks session) {made : List HostCall}
    (adds : Adds session.world.calls (tick (host.counting counters) session).2.world.calls made)
    (invoked : invocations (tick (host.counting counters) session).2.world.calls =
      invocations session.world.calls +
        if goodEntries (tick (host.counting counters) session).2.world.calls = [] then 0 else 1)
    (good : LastGood (tick (host.counting counters) session).2)
    (nothing : goodEntries (tick (host.counting counters) session).2.world.calls = []) :
    let next := (tick (host.counting counters) session).2
    Continuing supply printed (ticks + 1) next ∧ CountsOn ticks session next made := by
  intro next
  let called := atCall (host.counting counters) session
  have unloaded : next.reloader.active = none := good.unloaded_iff.mpr nothing
  have running : called.reloader.active = none := (tick_active _ session).symm.trans unloaded
  have same : next =
      { called with context := { called.context with reloaded := false }.closeTick } := by
    show (tick _ session).2 = _
    rw [tick_eq, invoke_of_none running]
  -- Nothing came up before this tick either, so the counter was never invoked.
  obtain ⟨before, now⟩ := List.append_eq_nil_iff.mp (adds.entries.symm.trans nothing)
  obtain ⟨kept, ticked, output⟩ := atCall_kept host counters continuing
  have uncalled : invocations next.world.calls = invocations session.world.calls := by
    rw [invoked, if_pos nothing, Nat.add_zero]
  have silent : next.context.output = session.context.output := by
    rw [same]
    exact output
  refine ⟨⟨good, rfl, ?_, ?_, ?_⟩, ⟨adds.calls, adds.entries, invoked, ?_, ?_⟩⟩
  · rw [same]
    exact congrArg (· + 1) ticked
  · rw [before] at kept
    rw [uncalled, nothing, same]
    exact kept.idle
  · rw [uncalled, silent]
    exact continuing.output
  · rw [if_pos nothing, silent, List.append_nil]
  · rw [if_pos now, List.append_nil, same]
    exact atCall_unheard host counters session

/-- What is active came up last, so it is the counter if all that came up are. -/
theorem main_of_active {session : Session (Chronicle V)} (good : LastGood session)
    (exported : ∀ entry ∈ goodEntries session.world.calls, entry.isCounter counters = true)
    {generation : Generation} (active : session.reloader.active = some generation) :
    ∃ address, generation.entry = .main address ∧ counters address = true := by
  have last : (goodEntries session.world.calls).getLast? = some generation.entry := by
    rw [← good.entry, active, Option.map_some]
  have counter := exported _ (List.mem_of_getLast? last)
  cases entry : generation.entry with
  | main address =>
    rw [entry] at counter
    exact ⟨address, rfl, counter⟩
  | legacy init update =>
    rw [entry] at counter
    cases counter

/-- The session after a tick in which the counter did not fail. -/
theorem tick_of_counter {generation : Generation} {address : Address} {records : List Record}
    {after : Context}
    (active : (atCall (host.counting counters) session).reloader.active = some generation)
    (main : generation.entry = .main address) (counter : counters address = true)
    (ticked : Counter.tick (atCall (host.counting counters) session).context =
      (none, records, after)) :
    let called := atCall (host.counting counters) session
    (tick (host.counting counters) session).2 =
      ⟨called.reloader.countInvocation, { after with reloaded := false }.closeTick,
        called.world.note (.callMain address called.context after)
          (records.foldl (fun world record => host.chronicled.record record world)
            called.world.world)⟩ := by
  intro called
  have answer := Host.chronicled_callMain _
    (host.chronicled.callMain_of_tick counter ticked called.world.world)
  rw [tick_eq, invoke_of_main active main, answer]

/-- The flag counts what came up in this tick. -/
theorem Adds.length_entries {before after made : List HostCall} (adds : Adds before after made)
    {reloaded : Bool} (flag : reloaded = true ↔ goodEntries made ≠ []) :
    (goodEntries before).length + reloaded.toNat = (goodEntries after).length := by
  rw [adds.entries, List.length_append]
  by_cases now : goodEntries made = []
  · have low : reloaded = false := by
      rw [← Bool.not_eq_true, flag, now]
      exact fun some => some rfl
    rw [low, now]
    rfl
  · have one : (goodEntries made).length = 1 :=
      Nat.le_antisymm adds.one (List.length_pos_iff.mpr now)
    rw [flag.mpr now, one]
    rfl

/-- A tick after something came up, which is the counter. -/
theorem tick_counted (continuing : Continuing supply printed ticks session) (sound : supply.Sound)
    (first : supply.base 0 ≠ none) (second : supply.base 1 ≠ none) {made : List HostCall}
    (adds : Adds session.world.calls (tick (host.counting counters) session).2.world.calls made)
    (invoked : invocations (tick (host.counting counters) session).2.world.calls =
      invocations session.world.calls +
        if goodEntries (tick (host.counting counters) session).2.world.calls = [] then 0 else 1)
    (flag : (atCall (host.counting counters) session).context.reloaded = true ↔
      goodEntries made ≠ [])
    (good : LastGood (tick (host.counting counters) session).2)
    (loaded : goodEntries (tick (host.counting counters) session).2.world.calls ≠ [])
    (exported : ∀ entry ∈ goodEntries (tick (host.counting counters) session).2.world.calls,
      entry.isCounter counters = true) :
    let next := (tick (host.counting counters) session).2
    Continuing supply printed (ticks + 1) next ∧ CountsOn ticks session next made := by
  intro next
  obtain ⟨generation, active⟩ := Option.ne_none_iff_exists'.mp (mt good.unloaded_iff.mp loaded)
  obtain ⟨address, main, counter⟩ := main_of_active good exported active
  have running : (atCall (host.counting counters) session).reloader.active = some generation :=
    (tick_active _ session).symm.trans active
  obtain ⟨kept, ticked, output⟩ := atCall_kept host counters continuing
  obtain ⟨sink, writing, accepting, taken⟩ := continuing.output
  -- The counter adds one for the flag, which is what this tick brought up.
  have heard := adds.length_entries flag
  have told : 0 < (goodEntries next.world.calls).length := List.length_pos_iff.mpr loaded
  rw [← heard] at told
  obtain ⟨after, left, counted, settled, finished, out, more, line⟩ :=
    kept.tick sound first second (output.trans writing) accepting told
  rw [heard] at settled counted
  rw [ticked] at counted
  have same : next = _ := tick_of_counter host running main counter counted
  have count : invocations next.world.calls = invocations session.world.calls + 1 := by
    rw [invoked, if_neg loaded]
  have spoken : next.context.output = .writing left := by
    rw [same]
    exact out
  have context : next.context = { after with reloaded := false }.closeTick := by rw [same]
  have log : next.world.world.calls = _ :=
    (congrArg (fun session => session.world.world.calls) same).trans (calls_of_records host _ _)
  refine ⟨⟨good, rfl, ?_, ?_, left, spoken, more, ?_⟩, ⟨adds.calls, adds.entries, invoked, ?_, ?_⟩⟩
  · rw [context]
    exact congrArg (· + 1) (finished.trans ticked)
  · rw [count, context]
    exact settled
  · rw [count, List.range_succ, List.flatMap_append, ← List.append_assoc, ← taken, line]
    simp
  · rw [if_neg loaded, spoken, count, writing]
    exact line
  · rw [log, recordsOf_append, atCall_unheard, recordsOf_loadRecord]
    simp only [flag, ite_not]
    rfl

/-- **A tick of the run**, which keeps the arrangement and counts on. -/
theorem tick_continuing (continuing : Continuing supply printed ticks session)
    (sound : supply.Sound) (first : supply.base 0 ≠ none) (second : supply.base 1 ≠ none)
    (exported : ∀ entry ∈ goodEntries (tick (host.counting counters) session).2.world.calls,
      entry.isCounter counters = true) :
    let next := (tick (host.counting counters) session).2
    Continuing supply printed (ticks + 1) next ∧ ∃ made, CountsOn ticks session next made := by
  obtain ⟨made, adds, flag, _, good⟩ :=
    tick_reloaded (host.chronicled.withCounter counters) continuing.good continuing.down
  obtain ⟨told, again, once, _⟩ :=
    tick_lastGood (host.chronicled.withCounter counters) continuing.good
  obtain rfl : told = made := List.append_cancel_left (again.calls.symm.trans adds.calls)
  have invoked := invocations_of_once adds once good
  by_cases nothing : goodEntries (tick (host.counting counters) session).2.world.calls = []
  · obtain ⟨later, counts⟩ := tick_idle host continuing adds invoked good nothing
    exact ⟨later, told, counts⟩
  · obtain ⟨later, counts⟩ :=
      tick_counted host continuing sound first second adds invoked flag good nothing exported
    exact ⟨later, told, counts⟩

/-- What came up in a part of a run came up in the run. -/
theorem exported_of_run (good : LastGood session) (more : List LoopStep)
    (exported : ∀ entry ∈ goodEntries
      (performAll (host.counting counters) session more).world.calls,
        entry.isCounter counters = true) :
    ∀ entry ∈ goodEntries session.world.calls, entry.isCounter counters = true := by
  obtain ⟨_, grown⟩ := goodEntries_grow (host.chronicled.withCounter counters) good more
  exact fun entry member => exported entry (grown.subset member)

theorem performAll_continuing (continuing : Continuing supply printed ticks session)
    (sound : supply.Sound) (first : supply.base 0 ≠ none) (second : supply.base 1 ≠ none)
    (steps : List LoopStep)
    (exported : ∀ entry ∈ goodEntries
      (performAll (host.counting counters) session steps).world.calls,
        entry.isCounter counters = true) :
    Continuing supply printed (ticks + steps.count .tick)
      (performAll (host.counting counters) session steps) := by
  induction steps generalizing session ticks with
  | nil => exact continuing
  | cons step rest ih =>
    cases step with
    | notify =>
      have noted : Continuing supply printed ticks (notifySession session) :=
        ⟨continuing.good.of_same rfl rfl rfl, continuing.down, continuing.tick, continuing.kept,
          continuing.output⟩
      rw [List.count_cons_of_ne (by decide)]
      exact ih noted exported
    | tick =>
      obtain ⟨_, _, _, good⟩ := tick_lastGood (host.chronicled.withCounter counters) continuing.good
      obtain ⟨later, _⟩ := tick_continuing host continuing sound first second
        (exported_of_run host good rest exported)
      rw [List.count_cons_self, Nat.add_comm _ 1, ← Nat.add_assoc]
      exact ih later exported

end Runs

/-- **The counter counts on.** In a run from a fresh reloader and context, over a sink that takes
every text and a system that has memory for two chunks, let everything that comes up be the counter,
whatever fails in between. Then the sink has taken the lines with the numbers from one to the number
of invocations; each tick adds the next line once something came up, and a record of the counter
exactly if it brought a generation up, with its number and the number of ticks before; and after a
tick, once the counter was invoked, the arena that lasts owns one chunk with the state in it, which
holds both numbers, the other arena owns none, and the system was asked for two chunks in all. The
numbers are words of 64 and 32 bits. -/
theorem performAll_counts (host : Host W) (counters : Address → Bool) (input : Path) (wake : Span)
    (args : List String) (seed : UInt64) {sink : Sink} (accepting : sink.Accepting)
    {supply : ChunkSupply} (sound : supply.Sound) (first : supply.base 0 ≠ none)
    (second : supply.base 1 ≠ none) (world : W) (steps : List LoopStep) :
    let fresh : Session W := ⟨.new input wake, .new args seed (.writing sink) supply, world⟩
    let run := performAll (host.counting counters) fresh.unwritten.unwritten
    (∀ entry ∈ goodEntries (run steps).world.calls, entry.isCounter counters = true) →
      (run steps).map (fun chronicle => chronicle.world.world) =
          performAll (host.withCounter counters) fresh steps ∧
        (run steps).context.output.taken.toList = sink.taken.toList ++
          (List.range (invocations (run steps).world.calls)).flatMap
            (fun count => countLine (count + 1)) ∧
        ∀ before, before ++ [.tick] <+: steps →
          let next := run (before ++ [.tick])
          (∃ made, CountsOn (before.count .tick) (run before) next made) ∧
            (0 < invocations next.world.calls →
              next.context.mem.size = 1 ∧ next.context.tmp.size = 0 ∧
                next.context.chunks.stats.systemAllocations = 2 ∧
                ∃ address, next.context.state = some address ∧
                  next.context.mem.owns address = true ∧
                  Counter.readFrom next.context address =
                    ⟨.ofNat (invocations next.world.calls),
                      .ofNat (goodEntries next.world.calls).length⟩) := by
  intro fresh run exported
  have start : Continuing supply sink.taken.toList 0 fresh.unwritten.unwritten :=
    ⟨.fresh fresh.unwritten rfl rfl, rfl, rfl, .fresh args seed (.writing sink) supply, sink, rfl,
      accepting, (List.append_nil _).symm⟩
  refine ⟨?_, ?_, ?_⟩
  · have inner := performAll_covers (host.chronicled_covers.withCounter counters) fresh.unwritten
      steps
    have outer := performAll_plain (host.chronicled.withCounter counters) fresh.unwritten steps
    rw [← outer] at inner
    exact inner
  · obtain ⟨last, writing, _, taken⟩ :=
      (performAll_continuing host start sound first second steps exported).output
    rw [writing]
    exact taken
  · rintro before ⟨rest, rfl⟩ next
    have parts (some more : List LoopStep) :
        run (some ++ more) = performAll (host.counting counters) (run some) more :=
      List.foldl_append
    -- What came up before the last step is counters too, as a part of what came up in the run.
    have good (some : List LoopStep) : LastGood (run some) :=
      (goodEntries_grow (host.chronicled.withCounter counters) start.good some).1
    rw [parts] at exported
    have ticked : next = (tick (host.counting counters) (run before)).2 := parts before [.tick]
    have all := exported_of_run host (good _) rest exported
    have early := exported_of_run host (good before) [.tick] (parts before [.tick] ▸ all)
    have continuing := performAll_continuing host start sound first second before early
    rw [Nat.zero_add] at continuing
    obtain ⟨later, counts⟩ := tick_continuing host continuing sound first second
      (parts before [.tick] ▸ all)
    rw [← ticked] at later counts
    exact ⟨counts, later.kept.memory⟩

/-- Two generations of the counter, with a build that fails in between. -/
theorem performAll_counts_rebuilt :
    let fresh : Session Rehearsal :=
      ⟨.new ⟨"counter"⟩ (.ofMillis 100), .new [] 0 (.writing .unlimited) .spaced, rebuiltCounter⟩
    let run := performAll (Rehearsal.host.counting rehearsedCounter) fresh.unwritten.unwritten
    let steps : List LoopStep := [.tick, .notify, .tick, .notify, .tick]
    Sink.unlimited.Accepting ∧ ChunkSupply.spaced.Sound ∧
      ChunkSupply.spaced.base 0 ≠ none ∧ ChunkSupply.spaced.base 1 ≠ none ∧
      (∀ entry ∈ goodEntries (run steps).world.calls, entry.isCounter rehearsedCounter = true) ∧
      (run steps).context.output.taken.toList = countLine 1 ++ countLine 2 ++ countLine 3 ∧
      (run steps).context.chunks.stats.systemAllocations = 2 := by
  have accepting : Sink.unlimited.Accepting := List.forall_mem_nil _
  have first : ChunkSupply.spaced.base 0 ≠ none := nofun
  have second : ChunkSupply.spaced.base 1 ≠ none := nofun
  have counts := performAll_counts Rehearsal.host rehearsedCounter ⟨"counter"⟩ (.ofMillis 100) [] 0
    accepting ChunkSupply.spaced_sound first second rebuiltCounter
    [.tick, .notify, .tick, .notify, .tick]
  obtain ⟨_, taken, ticks⟩ := counts (by decide +kernel)
  obtain ⟨_, memory⟩ := ticks [.tick, .notify, .tick, .notify] ⟨[], rfl⟩
  obtain ⟨_, _, two, _⟩ := memory (by decide +kernel)
  have lines : ∀ count, count = 3 → Sink.unlimited.taken.toList ++
      (List.range count).flatMap (fun count => countLine (count + 1)) =
        countLine 1 ++ countLine 2 ++ countLine 3 := by
    rintro count rfl
    rfl
  exact ⟨accepting, ChunkSupply.spaced_sound, first, second, by decide +kernel,
    taken.trans (lines _ (by decide +kernel)), two⟩

end Reloader

end LiveReload
