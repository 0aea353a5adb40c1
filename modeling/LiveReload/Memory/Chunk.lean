/-
**Chunks and their cache.**

Memory comes from the system in chunks of one size. A chunk that is no longer needed waits in the
cache and is handed out again before the system is asked for another, the last one returned first.

* `ChunkSupply`: what the system answers to each request;
* `ChunkCache.acquire`, `ChunkCache.take?`: a chunk from the cache or the system, or from the cache
  alone;
* `ChunkCache.release`, `ChunkCache.releaseAll`: the way back;
* `ChunkCounts`: the counters with what follows from them.
-/
import LiveReload.Fault.Basic
import LiveReload.Memory.Bytes

namespace LiveReload

/-- The size of every chunk. -/
def chunkSize : Nat := 1048576

/-- The alignment of the first byte of every chunk. -/
def chunkAlign : Nat := 4096

/-- A block of `chunkSize` bytes, the `serial`-th that came from the system. -/
structure Chunk where
  serial : Nat
  base : Nat
deriving DecidableEq, Repr

/-- An address lies inside a chunk. -/
def Chunk.contains (chunk : Chunk) (address : Nat) : Bool :=
  chunk.base ≤ address && address < chunk.base + chunkSize

/-- Where the system puts the chunk of each request, unless it refuses. -/
structure ChunkSupply where
  base : Nat → Option Nat

/-- A system that never refuses and leaves a gap of one chunk before each chunk. -/
def ChunkSupply.spaced : ChunkSupply :=
  ⟨fun request => some ((2 * request + 1) * chunkSize)⟩

/-- A request for memory that was turned down. -/
inductive AllocError
  | oversized (size align capacity : Nat)
  | outOfMemory (size : Nat)
deriving DecidableEq, Repr

/-- Why a request was turned down, in words. -/
def AllocError.message : AllocError → String
  | oversized size align capacity =>
    s!"allocation of {size} bytes (align {align}) exceeds the {capacity}-byte chunk capacity"
  | outOfMemory size => s!"the system allocator refused a {size}-byte chunk"

/-- The counters of a cache at one moment. -/
structure ChunkCounts where
  systemAllocations : Nat
  systemBytes : Nat
  cacheHits : Nat
  released : Nat
  cached : Nat
  reuseRatio : Float

namespace ChunkCounts

/-- A count as a double. -/
def toDouble (count : Nat) : Float := (UInt64.ofNat count).toFloat

/-- The stats with the share of requests that the cache served, left as it is while there was no
request; the sum of the requests has to fit a word. -/
def withReuseRatio (stats : ChunkCounts) : Except Crash ChunkCounts :=
  let requests := stats.cacheHits + stats.systemAllocations
  if 2 ^ 64 ≤ requests then .error .overflow
  else if requests = 0 then .ok stats
  else .ok { stats with reuseRatio := toDouble stats.cacheHits / toDouble requests }

/-- The chunks that are not in the cache. -/
def inUse (stats : ChunkCounts) : Nat := stats.systemAllocations - stats.cached

end ChunkCounts

/-- The chunks that no one holds, what was counted, and the bytes of all chunks. -/
structure ChunkCache where
  /-- The next chunk to hand out comes first. -/
  free : List Chunk
  supply : ChunkSupply
  /-- How often the system was asked. -/
  requests : Nat
  systemAllocations : Nat
  systemBytes : Nat
  cacheHits : Nat
  released : Nat
  memory : Memory

namespace ChunkCache

/-- A cache that holds nothing yet. -/
def new (supply : ChunkSupply) : ChunkCache :=
  { free := [], supply, requests := 0, systemAllocations := 0, systemBytes := 0, cacheHits := 0,
    released := 0, memory := .blank }

/-- Hands out the chunk that was returned last, if there is one. -/
def take? (cache : ChunkCache) : Option (Chunk × ChunkCache) :=
  match cache.free with
  | [] => none
  | chunk :: rest => some (chunk, { cache with free := rest, cacheHits := cache.cacheHits + 1 })

/-- Asks the system for a chunk. -/
def request (cache : ChunkCache) : Except AllocError Chunk × ChunkCache :=
  let asked := { cache with requests := cache.requests + 1 }
  match cache.supply.base cache.requests with
  | none => (.error (.outOfMemory chunkSize), asked)
  | some base =>
    (.ok ⟨cache.systemAllocations, base⟩,
      { asked with
        systemAllocations := cache.systemAllocations + 1
        systemBytes := cache.systemBytes + chunkSize })

/-- A chunk from the cache, or from the system when the cache is empty. -/
def acquire (cache : ChunkCache) : Except AllocError Chunk × ChunkCache :=
  match cache.take? with
  | some (chunk, rest) => (.ok chunk, rest)
  | none => cache.request

/-- Takes one chunk back. -/
def release (cache : ChunkCache) (chunk : Chunk) : ChunkCache :=
  { cache with free := chunk :: cache.free, released := cache.released + 1 }

/-- Takes chunks back, the last of them to be handed out first. -/
def releaseAll (cache : ChunkCache) (chunks : List Chunk) : ChunkCache :=
  { cache with
    free := chunks.reverse ++ cache.free
    released := cache.released + chunks.length }

/-- How many chunks wait in the cache. -/
def cached (cache : ChunkCache) : Nat := cache.free.length

/-- The counters as they stand. -/
def stats (cache : ChunkCache) : ChunkCounts :=
  let plain : ChunkCounts :=
    { systemAllocations := cache.systemAllocations, systemBytes := cache.systemBytes,
      cacheHits := cache.cacheHits, released := cache.released, cached := cache.cached,
      reuseRatio := 0 }
  match plain.withReuseRatio with
  | .ok stats => stats
  | .error _ => plain

end ChunkCache

end LiveReload
