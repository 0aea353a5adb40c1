/-
**One invocation of the counter.**

The first invocation reserves the state of the counter, which is then all that the lasting arena
ever holds. Each invocation reads it, counts, writes it back, borrows the one scratch chunk for its
label and prints one line. Ending the tick puts the scratch chunk back into the cache, so the next
invocation starts from the same arrangement with a higher count.

* `Counter.Ready`: the arrangement that an invocation finds, by `ensure_of_untouched` the first time
  and by `Ready.ensure` from then on;
* `Counter.Counted`: the one that it leaves, which is ready again at the end of the tick
  (`Counted.close`);
* `Counter.tick_of_ready`: all that an invocation does.
-/
import LiveReload.Demo.Counter
import LiveReload.Proofs.Memory.Contents
import LiveReload.Proofs.Output.Delivery

namespace LiveReload

/-! ### The memory of the counter -/

/-- An arena without a chunk stores at the first byte of the chunk that the cache hands out. -/
theorem Arena.store_of_empty {arena : Arena} {cache rest : ChunkCache} {chunk : Chunk}
    (empty : arena.chunks = []) (acquired : cache.acquire = (.ok chunk, rest)) (layout : Layout)
    (size : layout.size ≤ chunkSize) (align : layout.align ≤ chunkAlign) (data : Array UInt8) :
    arena.store cache layout data =
      (.ok ⟨chunk, 0, layout.size⟩, ⟨[chunk], 0 + layout.size⟩,
        { rest with
          memory := (rest.memory.fill chunk.base layout.size 0).write chunk.base data }) := by
  have small : ¬ (chunkSize < layout.size || chunkAlign < layout.align) = true := by
    simp [size, align]
  simp only [store, allocate, reserve, if_neg small, empty, extend, acquired, carve, fillRegion,
    Region.address, Nat.add_zero]

namespace ChunkCache

theorem acquire_of_cached (cache : ChunkCache) {chunk : Chunk} {rest : List Chunk}
    (free : cache.free = chunk :: rest) :
    cache.acquire = (.ok chunk, { cache with free := rest, cacheHits := cache.cacheHits + 1 }) := by
  simp only [acquire, take?, free]

theorem acquire_of_granted (cache : ChunkCache) {base : Nat} (empty : cache.free = [])
    (answered : cache.supply.base cache.requests = some base) :
    cache.acquire = (.ok ⟨cache.systemAllocations, base⟩,
      { cache with
        requests := cache.requests + 1
        systemAllocations := cache.systemAllocations + 1
        systemBytes := cache.systemBytes + chunkSize }) := by
  simp only [acquire, take?, empty, request, answered]

/-- Which chunk a cache hands out does not depend on the bytes of its chunks. -/
theorem acquire_of_memory {cache after : ChunkCache} {chunk : Chunk}
    (acquired : cache.acquire = (.ok chunk, after)) (memory : Memory) :
    { cache with memory }.acquire = (.ok chunk, { after with memory }) := by
  have ends := cache.acquire_ends
  rw [acquired] at ends
  cases ends with
  | cached free => exact acquire_of_cached { cache with memory } free
  | granted empty answered =>
    exact acquire_of_granted { cache with memory } empty answered

end ChunkCache

namespace Counter

@[simp] theorem size_bytes (counter : Counter) : counter.bytes.size = 16 := by
  simp [bytes]

/-- A stored counter reads back. -/
theorem readFrom_of_held {context : Context} {address : Nat} {counter : Counter}
    (held : context.readAt address 16 = counter.bytes.toList) :
    readFrom context address = counter := by
  unfold Context.readAt at held
  rw [show 16 = 8 + (4 + 4) from rfl, Memory.read_add, Memory.read_add, bytes, List.append_assoc]
    at held
  obtain ⟨value, rest⟩ := List.append_inj held (by simp)
  obtain ⟨loads, _⟩ := List.append_inj rest (by simp)
  unfold readFrom Context.readAt
  rw [value, loads, ofLittleEndian_littleEndian, ofLittleEndian_littleEndian]
  have word := counter.value.toNat_lt
  have half := counter.loads.toNat_lt
  rw [Nat.mod_eq_of_lt word, Nat.mod_eq_of_lt half, UInt64.ofNat_toNat, UInt32.ofNat_toNat]

/-- The counter after one more invocation. -/
def next (reloaded : Bool) (counter : Counter) : Counter :=
  let noticed := noticeReload reloaded counter
  { noticed with value := noticed.value + step }

/-- The initializer of the counter. -/
def start : Context.Initializer := fun context => (.ok initial.bytes, context)

/-- A context whose memory nothing has used yet. -/
structure Untouched (supply : ChunkSupply) (context : Context) : Prop where
  state : context.state = none
  mem : context.mem.chunks = []
  tmp : context.tmp.chunks = []
  free : context.chunks.free = []
  supply : context.chunks.supply = supply
  requests : context.chunks.requests = 0
  allocations : context.chunks.systemAllocations = 0

/-- All memory that lasts is one chunk that starts with the counter, and the next chunk that is
handed out is the last of two. -/
structure Ready (main scratch : Chunk) (counter : Counter) (context : Context) : Prop where
  state : context.state = some main.base
  mem : context.mem.chunks = [main]
  tmp : context.tmp.chunks = []
  held : context.readAt main.base 16 = counter.bytes.toList
  apart : Apart main.base chunkSize scratch.base chunkSize
  next : ∃ rest, context.chunks.acquire = (.ok scratch, rest) ∧ rest.free = [] ∧
    rest.systemAllocations = 2

/-- The same with that chunk lent out. -/
structure Counted (main scratch : Chunk) (counter : Counter) (context : Context) : Prop where
  state : context.state = some main.base
  mem : context.mem.chunks = [main]
  tmp : context.tmp.chunks = [scratch]
  held : context.readAt main.base 16 = counter.bytes.toList
  apart : Apart main.base chunkSize scratch.base chunkSize
  free : context.chunks.free = []
  allocations : context.chunks.systemAllocations = 2

/-- The contexts differ in their memory alone, as far as the counter looks at them. -/
structure Alike (before after : Context) : Prop where
  reloaded : after.reloaded = before.reloaded
  tick : after.tick = before.tick
  output : after.output = before.output

variable {context ready : Context} {main scratch : Chunk} {counter : Counter}

/-- The first invocation makes the state, in the first chunk that the system gives. -/
theorem ensure_of_untouched {supply : ChunkSupply} (untouched : Untouched supply context)
    (sound : supply.Sound) {base other : Nat} (first : supply.base 0 = some base)
    (second : supply.base 1 = some other) :
    ∃ ready, context.ensureState layout start = (.ok base, ready) ∧
      Ready ⟨0, base⟩ ⟨1, other⟩ initial ready ∧ Alike context ready := by
  -- The first request is for the state; the second one will be for scratch memory.
  have answered : context.chunks.supply.base context.chunks.requests = some base := by
    rw [untouched.supply, untouched.requests, first]
  have further : context.chunks.supply.base (context.chunks.requests + 1) = some other := by
    rw [untouched.supply, untouched.requests, second]
  have acquired := context.chunks.acquire_of_granted untouched.free answered
  have stored := Arena.store_of_empty untouched.mem acquired layout (by decide) (by decide)
    initial.bytes
  have mem : context.storeMem layout initial.bytes = _ :=
    congrArg (fun answer => (answer.1, { context with mem := answer.2.1, chunks := answer.2.2 }))
      stored
  refine ⟨_, (Context.ensureState_of_stored untouched.state rfl mem).trans rfl, ?_, rfl, rfl, rfl⟩
  refine ⟨rfl, ?_, untouched.tmp, ?_, sound.apart 0 1 _ _ Nat.one_pos first second, ?_⟩
  · rw [untouched.allocations]
  · have back := Memory.read_write (context.chunks.memory.fill base 16 0) base initial.bytes
    rw [size_bytes] at back
    exact back
  · let asked : ChunkCache :=
      { context.chunks with
        requests := context.chunks.requests + 1
        systemAllocations := context.chunks.systemAllocations + 1
        systemBytes := context.chunks.systemBytes + chunkSize }
    have more := ChunkCache.acquire_of_memory (asked.acquire_of_granted untouched.free further)
      ((context.chunks.memory.fill base 16 0).write base initial.bytes)
    simp only [asked] at more
    rw [untouched.allocations] at more ⊢
    exact ⟨_, more, untouched.free, rfl⟩

theorem Ready.ensure (ready : Ready main scratch counter context) :
    context.ensureState layout start = (.ok main.base, context) :=
  Context.ensureState_of_some ready.state

/-- The label is stored in the scratch chunk, away from the counter. -/
theorem Ready.store (ready : Ready main scratch counter context) (written : Counter)
    (label : Layout) (size : label.size ≤ chunkSize) (align : label.align ≤ chunkAlign)
    {data : Array UInt8} (fits : data.size ≤ label.size) :
    ∃ region after, (context.writeAt main.base written.bytes).storeTmp label data =
      (.ok region, after) ∧ Counted main scratch written after ∧ Alike context after := by
  obtain ⟨rest, acquired, free, allocations⟩ := ready.next
  have lent := ChunkCache.acquire_of_memory acquired
    (context.chunks.memory.write main.base written.bytes)
  have stored := Arena.store_of_empty ready.tmp lent label size align data
  have tmp : (context.writeAt main.base written.bytes).storeTmp label data = _ :=
    congrArg (fun answer => (answer.1,
      { context.writeAt main.base written.bytes with tmp := answer.2.1, chunks := answer.2.2 }))
      stored
  refine ⟨_, _, tmp, ⟨ready.state, ready.mem, rfl, ?_, ready.apart, free, allocations⟩,
    rfl, rfl, rfl⟩
  -- What is filled and written lies in the scratch chunk, the counter in the other one.
  have away : ∀ span ≤ label.size, Apart main.base 16 scratch.base span := fun span most =>
    ready.apart.inside (Nat.le_refl _) (Nat.add_le_add_left (by decide) _) (Nat.le_refl _)
      (Nat.add_le_add_left (Nat.le_trans most size) _)
  have back := Memory.read_write context.chunks.memory main.base written.bytes
  rw [size_bytes] at back
  unfold Context.readAt
  rw [Memory.read_write_of_apart (away _ fits),
    Memory.read_fill_of_apart 0 (away _ (Nat.le_refl _))]
  exact back

/-- The end of the tick makes the scratch chunk the next one that is handed out. -/
theorem Counted.close (counted : Counted main scratch counter context) :
    let closed := { context with reloaded := false }.closeTick
    Ready main scratch counter closed ∧ closed.chunks.systemAllocations = 2 := by
  intro closed
  have free : closed.chunks.free = [scratch] := by
    show context.tmp.chunks.reverse.reverse ++ context.chunks.free = [scratch]
    rw [counted.tmp, counted.free]
    rfl
  refine ⟨⟨counted.state, counted.mem, rfl, counted.held, counted.apart, ?_⟩, counted.allocations⟩
  exact ⟨_, closed.chunks.acquire_of_cached free, rfl, counted.allocations⟩

theorem conclude_eq (context : Context) :
    ∃ exitCode, conclude context = { context with wakeDelay, exitCode } := by
  unfold conclude
  split <;> exact ⟨_, rfl⟩

/-- **One invocation.** It counts one, records a new generation and nothing else, and prints the new
count as one line. -/
theorem tick_of_ready {sink : Sink}
    (ensured : context.ensureState layout start = (.ok main.base, ready))
    (found : Ready main scratch counter ready) (alike : Alike context ready)
    (output : context.output = .writing sink) (accepting : sink.Accepting) :
    let counted := counter.next context.reloaded
    ∃ after left,
      tick context =
        (none, if context.reloaded then [loadRecord counted.loads context.tick] else [], after) ∧
      Counted main scratch counted after ∧ after.tick = context.tick ∧
      after.output = .writing left ∧ left.Accepting ∧
      left.taken.toList = sink.taken.toList ++ (line counted.value).flatMap Utf8.encode := by
  intro counted
  obtain ⟨around, fits, size, align⟩ : ∃ around, Layout.of? label.utf8ByteSize 1 = some around ∧
      around.size = label.toUTF8.data.size ∧ around.align = 1 := ⟨_, rfl, rfl, rfl⟩
  obtain ⟨region, labelled, stored, lent, same⟩ := found.store counted around
    (by rw [size]; decide) (by rw [align]; decide) (Nat.le_of_eq size.symm)
  obtain ⟨left, put, more, taken⟩ := Output.putAll_of_accepting accepting (line counted.value)
  have out : labelled.output = .writing sink := same.output.trans (alike.output.trans output)
  obtain ⟨exitCode, ended⟩ := conclude_eq { labelled with output := .writing left }
  let after := { labelled with output := .writing left, wakeDelay, exitCode }
  have settled : Counted main scratch counted after :=
    ⟨lent.state, lent.mem, lent.tmp, lent.held, lent.apart, lent.free, lent.allocations⟩
  refine ⟨after, left, ?_, settled, same.tick.trans alike.tick, rfl, more, taken⟩
  -- Every call in the invocation has its answer by now.
  unfold start at ensured
  simp only [counted, next] at stored put
  simp only [tick, ensured, readFrom_of_held found.held, alike.reloaded, alike.tick, fits, stored,
    out, put, ended]
  rfl

end Counter

end LiveReload
