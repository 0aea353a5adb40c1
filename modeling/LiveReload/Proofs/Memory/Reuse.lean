/-
**Freed chunks come back in order.**

The cache is a stack, whoever puts chunks on it or takes them off. An arena that is freed puts its
chunks there with the head on top. From then on, until something is given back again, every request
for a chunk takes the next one: requests of holders, and requests for bytes that an arena cannot
serve from its head. The system is not asked before all chunks of the arena, and those that were
cached before, are handed out.

* `Arena.NeedsHead`, `Pool.AsksChunk`: which requests take a chunk;
* `Pool.handedOut`: what these are answered, among all other requests;
* `ChunkCache.GivesOut`: a cache whose first chunks were taken;
* `Pool.serve_givesOut`, `Pool.serveAll_givesOut`: one request, and any number of them;
* `Pool.serveAll_reuses`: what comes after an arena is freed.
-/
import LiveReload.Proofs.Memory.Refusal

namespace LiveReload

/-! ### Requests for chunks -/

/-- Some chunk could serve the layout, but the head of the arena cannot. -/
def Arena.NeedsHead (arena : Arena) (layout : Layout) : Prop :=
  ¬ layout.Oversized ∧ ¬ arena.HasRoom layout

instance (arena : Arena) (layout : Layout) : Decidable (arena.NeedsHead layout) :=
  decidable_of_iff
    (¬ (chunkSize < layout.size ∨ chunkAlign < layout.align) ∧
      (arena.chunks = [] ∨ chunkSize < alignUp arena.cursor layout.align + layout.size))
    (and_congr_right' Arena.not_hasRoom_iff.symm)

namespace PoolRequest

/-- The request brings chunks back to the cache. -/
def givesBack : PoolRequest → Bool
  | free _ => true
  | release _ => true
  | releaseAll _ => true
  | _ => false

end PoolRequest

/-- The chunk that a reply hands out: one for a holder, or the one that a region lies in. -/
def PoolReply.chunk? : PoolReply → Option Chunk
  | region place => some place.chunk
  | chunk given => given
  | _ => none

namespace Pool

/-- The request is served with a further chunk, or not at all. -/
def AsksChunk (pool : Pool) : PoolRequest → Prop
  | .acquire _ => True
  | .take _ => True
  | .allocate name layout => (pool.arena name).NeedsHead layout
  | .store name layout _ => (pool.arena name).NeedsHead layout
  | _ => False

instance (pool : Pool) : DecidablePred pool.AsksChunk := fun request => by
  cases request <;> unfold AsksChunk <;> infer_instance

/-- What the requests for chunks among some requests are answered. -/
def handedOut (pool : Pool) : List PoolRequest → List (Option Chunk)
  | [] => []
  | request :: rest =>
    (if pool.AsksChunk request then [(pool.serve request).1.chunk?] else []) ++
      (pool.serve request).2.handedOut rest

end Pool

/-! ### Taking chunks off the cache -/

/-- The first `count` chunks of a cache were taken, and nothing else has happened to its chunks and
counters. -/
structure ChunkCache.GivesOut (before : ChunkCache) (count : Nat) (after : ChunkCache) : Prop where
  free : after.free = before.free.drop count
  cacheHits : after.cacheHits = before.cacheHits + count
  systemAllocations : after.systemAllocations = before.systemAllocations
  requests : after.requests = before.requests

namespace ChunkCache.GivesOut

variable {cache between after : ChunkCache} {count more : Nat}

theorem refl (cache : ChunkCache) : cache.GivesOut 0 cache := ⟨rfl, rfl, rfl, rfl⟩

/-- The bytes in the chunks do not count. -/
theorem memory (gives : cache.GivesOut count after) (memory : Memory) :
    cache.GivesOut count { after with memory } :=
  ⟨gives.free, gives.cacheHits, gives.systemAllocations, gives.requests⟩

theorem trans (first : cache.GivesOut count between) (second : between.GivesOut more after) :
    cache.GivesOut (count + more) after where
  free := by rw [second.free, first.free, List.drop_drop]
  cacheHits := by rw [second.cacheHits, first.cacheHits, Nat.add_assoc]
  systemAllocations := second.systemAllocations.trans first.systemAllocations
  requests := second.requests.trans first.requests

variable {chunk : Chunk} {rest : List Chunk}

theorem one (free : cache.free = chunk :: rest) :
    cache.GivesOut 1 { cache with free := rest, cacheHits := cache.cacheHits + 1 } where
  free := by rw [free, List.drop_succ_cons, List.drop_zero]
  cacheHits := rfl
  systemAllocations := rfl
  requests := rfl

/-- While a chunk is cached, a request for one is answered with it. -/
theorem acquired {answer : Except AllocError Chunk} (free : cache.free = chunk :: rest)
    (acquired : cache.acquire = (answer, after)) : answer = .ok chunk ∧ cache.GivesOut 1 after := by
  have ends := cache.acquire_ends
  rw [acquired] at ends
  cases ends with
  | cached first =>
    obtain ⟨rfl, rfl⟩ := List.cons.inj (free.symm.trans first)
    exact ⟨rfl, one first⟩
  | granted empty => cases free.symm.trans empty
  | refused empty => cases free.symm.trans empty

end ChunkCache.GivesOut

namespace Arena

variable {arena grown : Arena} {cache after : ChunkCache} {layout : Layout}
  {answer : Except AllocError Region}

/-- A request for bytes that needs no chunk takes none. -/
theorem givesOut_of_room (room : ¬ arena.NeedsHead layout)
    (reserved : arena.reserve cache layout = (answer, grown, after)) : cache.GivesOut 0 after := by
  have ends := arena.reserve_ends cache layout
  rw [reserved] at ends
  have needs (size : layout.size ≤ chunkSize) (align : layout.align ≤ chunkAlign)
      (full : arena.chunks = [] ∨ chunkSize < alignUp arena.cursor layout.align + layout.size) :
      arena.NeedsHead layout :=
    ⟨not_or.mpr ⟨Nat.not_lt.mpr size, Nat.not_lt.mpr align⟩, not_hasRoom_iff.mpr full⟩
  cases ends with
  | oversized => exact .refl cache
  | inHead => exact (ChunkCache.GivesOut.refl cache).memory _
  | inNew size align full => exact absurd (needs size align full) room
  | refused size align full => exact absurd (needs size align full) room

/-- A request for bytes that needs a chunk is served at the start of the next one. -/
theorem givesOut_of_needs {chunk : Chunk} {rest : List Chunk} (needs : arena.NeedsHead layout)
    (free : cache.free = chunk :: rest)
    (reserved : arena.reserve cache layout = (answer, grown, after)) :
    answer = .ok ⟨chunk, 0, layout.size⟩ ∧ grown.chunks = chunk :: arena.chunks ∧
      cache.GivesOut 1 after := by
  have ends := arena.reserve_ends cache layout
  rw [reserved] at ends
  cases ends with
  | oversized large => exact absurd large needs.1
  | inHead _ _ owned fits =>
    have full := not_hasRoom_iff.mp needs.2
    rw [owned] at full
    rcases full with empty | full
    · cases empty
    · exact absurd fits (Nat.not_le_of_lt full)
  | inNew _ _ _ acquired =>
    obtain ⟨first, gives⟩ := ChunkCache.GivesOut.acquired free acquired
    obtain rfl := Except.ok.inj first
    exact ⟨rfl, rfl, gives.memory _⟩
  | refused _ _ _ refused => cases (ChunkCache.GivesOut.acquired free refused).1

end Arena

namespace Pool

/-- A request that gives nothing back takes the next chunk if it asks for one, and else leaves the
chunks of the cache as they are. -/
theorem serve_givesOut (pool : Pool) {request : PoolRequest} (kept : request.givesBack = false) :
    (¬ pool.AsksChunk request → pool.cache.GivesOut 0 (pool.serve request).2.cache) ∧
    (pool.AsksChunk request → ∀ chunk rest, pool.cache.free = chunk :: rest →
      (pool.serve request).1.chunk? = some chunk ∧
        pool.cache.GivesOut 1 (pool.serve request).2.cache) := by
  have ends := pool.serve_ends request
  generalize pool.serve request = served at ends ⊢
  cases ends with
  | granted reserved =>
    refine ⟨fun room => Arena.givesOut_of_room room reserved, fun needs chunk rest free => ?_⟩
    obtain ⟨first, -, gives⟩ := Arena.givesOut_of_needs needs free reserved
    obtain rfl := Except.ok.inj first
    exact ⟨rfl, gives⟩
  | stored reserved =>
    refine ⟨fun room => (Arena.givesOut_of_room room reserved).memory _,
      fun needs chunk rest free => ?_⟩
    obtain ⟨first, -, gives⟩ := Arena.givesOut_of_needs needs free reserved
    obtain rfl := Except.ok.inj first
    exact ⟨rfl, gives.memory _⟩
  | @refused _ name layout _ _ _ asks reserved =>
    have same : pool.AsksChunk request ↔ (pool.arena name).NeedsHead layout := by
      rcases asks with rfl | ⟨data, rfl⟩ <;> exact Iff.rfl
    rw [same]
    refine ⟨fun room => Arena.givesOut_of_room room reserved, fun needs chunk rest free => ?_⟩
    cases (Arena.givesOut_of_needs needs free reserved).1
  | freed => cases kept
  | given asks =>
    rcases asks with ⟨rfl, acquired⟩ | ⟨rfl, taken⟩
    · refine ⟨fun quiet => absurd trivial quiet, fun _ chunk rest free => ?_⟩
      obtain ⟨first, gives⟩ := ChunkCache.GivesOut.acquired free acquired
      obtain rfl := Except.ok.inj first
      exact ⟨rfl, gives⟩
    · refine ⟨fun quiet => absurd trivial quiet, fun _ chunk rest free => ?_⟩
      obtain ⟨others, first, rfl⟩ := ChunkCache.take?_eq_some taken
      obtain ⟨rfl, rfl⟩ := List.cons.inj (free.symm.trans first)
      exact ⟨rfl, .one free⟩
  | withheld acquired =>
    refine ⟨fun quiet => absurd trivial quiet, fun _ chunk rest free => ?_⟩
    cases (ChunkCache.GivesOut.acquired free acquired).1
  | nothing taken =>
    refine ⟨fun quiet => absurd trivial quiet, fun _ chunk rest free => ?_⟩
    cases free.symm.trans (ChunkCache.take?_eq_none taken)
  | returned _ asks => rcases asks with ⟨_, rfl⟩ | ⟨_, rfl⟩ <;> cases kept

/-- **The cache is a stack.** As long as nothing is given back, requests for chunks are answered
with the chunks of the cache in their order, for as many as there are. -/
theorem serveAll_givesOut (pool : Pool) (requests : List PoolRequest)
    (kept : ∀ request ∈ requests, request.givesBack = false) :
    (pool.handedOut requests).take pool.cache.free.length =
        (pool.cache.free.take (pool.handedOut requests).length).map some ∧
      ((pool.handedOut requests).length ≤ pool.cache.free.length →
        pool.cache.GivesOut (pool.handedOut requests).length (pool.serveAll requests).cache) := by
  induction requests generalizing pool with
  | nil => exact ⟨List.take_nil, fun _ => .refl _⟩
  | cons request rest ih =>
    obtain ⟨first, others⟩ := List.forall_mem_cons.mp kept
    obtain ⟨quiet, asking⟩ := pool.serve_givesOut first
    obtain ⟨order, gives⟩ := ih (pool.serve request).2 others
    have further : pool.serveAll (request :: rest) = (pool.serve request).2.serveAll rest := rfl
    rw [handedOut, further]
    by_cases asks : pool.AsksChunk request
    · rw [if_pos asks, List.singleton_append, List.length_cons]
      cases free : pool.cache.free with
      | nil => exact ⟨rfl, fun few => absurd few (Nat.not_succ_le_zero _)⟩
      | cons chunk chunks =>
        obtain ⟨answer, one⟩ := asking asks chunk chunks free
        have left : (pool.serve request).2.cache.free = chunks := by
          rw [one.free, free, List.drop_succ_cons, List.drop_zero]
        rw [left] at order gives
        refine ⟨?_, fun few => ?_⟩
        · rw [List.length_cons, List.take_succ_cons, List.take_succ_cons, List.map_cons, answer,
            order]
        · rw [Nat.add_comm]
          exact one.trans (gives (Nat.le_of_succ_le_succ few))
    · have same := quiet asks
      have left : (pool.serve request).2.cache.free = pool.cache.free := same.free
      rw [if_neg asks, List.nil_append]
      rw [left] at order gives
      refine ⟨order, fun few => ?_⟩
      rw [← Nat.zero_add (List.length _)]
      exact same.trans (gives few)

/-- **Freed chunks are reused in order, without the system.** Let an arena be freed, whatever the
cache holds, and let anything be asked of the pool that gives nothing back. The requests for chunks,
of holders and of arenas that need a new head, in any order, are answered with the chunks of the
freed arena, from its head back to its oldest chunk, as far as they go. While no more are asked for,
those that are left lie on top of the cache and below them all that was there before, the system was
not asked and every request was a hit; and when as many were asked for, all of them are handed
out and the cache is left with what was there before. -/
theorem serveAll_reuses (pool : Pool) (name : String) (requests : List PoolRequest)
    (kept : ∀ request ∈ requests, request.givesBack = false) :
    let chunks := (pool.arena name).chunks
    let freed := (pool.serve (.free name)).2
    let handed := freed.handedOut requests
    let after := (freed.serveAll requests).cache
    handed.take chunks.length = (chunks.take handed.length).map some ∧
      (handed.length ≤ chunks.length →
        after.free = chunks.drop handed.length ++ pool.cache.free ∧
        after.requests = pool.cache.requests ∧
        after.stats.systemAllocations = pool.cache.stats.systemAllocations ∧
        after.stats.cacheHits = pool.cache.stats.cacheHits + handed.length) ∧
      (handed.length = chunks.length →
        handed = chunks.map some ∧ after.free = pool.cache.free) := by
  intro chunks freed handed after
  have free : freed.cache.free = chunks ++ pool.cache.free := by
    show chunks.reverse.reverse ++ pool.cache.free = _
    rw [List.reverse_reverse]
  obtain ⟨order, gives⟩ := freed.serveAll_givesOut requests kept
  rw [free, List.length_append] at order gives
  have first : handed.take chunks.length = (chunks.take handed.length).map some := by
    have cut := congrArg (List.take chunks.length) order
    rw [List.take_take, Nat.min_eq_left (Nat.le_add_right _ _), ← List.map_take, List.take_take,
      Nat.min_comm, ← List.take_take, List.take_left] at cut
    exact cut
  have within (few : handed.length ≤ chunks.length) :
      after.free = chunks.drop handed.length ++ pool.cache.free ∧
        after.requests = pool.cache.requests ∧
        after.stats.systemAllocations = pool.cache.stats.systemAllocations ∧
        after.stats.cacheHits = pool.cache.stats.cacheHits + handed.length := by
    have gone := gives (Nat.le_add_right_of_le few)
    obtain ⟨allocations, -, hits, -⟩ := after.stats_counts
    obtain ⟨allocationsBefore, -, hitsBefore, -⟩ := pool.cache.stats_counts
    refine ⟨?_, gone.requests, ?_, ?_⟩
    · rw [gone.free, free, List.drop_append_of_le_length few]
    · rw [allocations, allocationsBefore]
      exact gone.systemAllocations
    · rw [hits, hitsBefore]
      exact gone.cacheHits
  refine ⟨first, within, fun all => ⟨?_, ?_⟩⟩
  · rw [← all, List.take_length, all, List.take_length] at first
    exact first
  · obtain ⟨left, -⟩ := within (Nat.le_of_eq all)
    rw [left, all, List.drop_length, List.nil_append]

/-- The two chunks of an arena go to another arena and to a holder, past a request that the new head
serves and above a chunk that was cached before. -/
theorem serveAll_reuses_shared :
    let pool := (new .spaced).serveAll
      [.acquire "host", .allocate "scene" ⟨chunkSize, 1, ⟨0, rfl⟩, by decide⟩,
        .allocate "scene" ⟨24, 8, ⟨3, rfl⟩, by decide⟩, .release "host"]
    let requests : List PoolRequest :=
      [.store "sound" ⟨3, 1, ⟨0, rfl⟩, by decide⟩ #[7, 8, 9],
        .allocate "sound" ⟨100, 64, ⟨6, rfl⟩, by decide⟩, .take "guest"]
    let freed := (pool.serve (.free "scene")).2
    (∀ request ∈ requests, request.givesBack = false) ∧ (freed.handedOut requests).length = 2 ∧
      freed.handedOut requests = (pool.arena "scene").chunks.map some ∧
      (freed.serveAll requests).cache.free = pool.cache.free ∧ pool.cache.free.length = 1 := by
  intro pool requests freed
  have kept : ∀ request ∈ requests, request.givesBack = false := by decide
  have two : (freed.handedOut requests).length = 2 := by decide
  obtain ⟨-, -, all⟩ := serveAll_reuses pool "scene" requests kept
  obtain ⟨order, left⟩ := all two
  exact ⟨kept, two, order, left, by decide⟩

end Pool

end LiveReload
