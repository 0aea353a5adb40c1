/-
**Arenas.**

An arena serves requests from its head chunk in address order. When the head cannot serve a request
a further chunk becomes the head and what was left of the old one is given up. Nothing is freed
alone: `Arena.free` returns all chunks at once.

* `Arena.reserve` reserves zeroed bytes, or says why it cannot and changes nothing;
* `Arena.allocate` does so for callers that cannot go on without;
* `Arena.store` reserves and writes.
-/
import LiveReload.Memory.Chunk
import LiveReload.Memory.Layout

namespace LiveReload

/-- A stretch of bytes inside a chunk. -/
structure Region where
  chunk : Chunk
  offset : Nat
  size : Nat
deriving DecidableEq, Repr

/-- The address of the first byte. -/
def Region.address (region : Region) : Nat := region.chunk.base + region.offset

/-- The chunks that an arena owns and how far the head is used. -/
structure Arena where
  /-- The head comes first. -/
  chunks : List Chunk
  cursor : Nat
deriving DecidableEq, Repr

namespace Arena

/-- An arena that owns nothing yet. -/
def empty : Arena := ⟨[], 0⟩

/-- Where a request starts in the head, if the head has room for it. -/
def fit? (arena : Arena) (layout : Layout) : Option Nat :=
  let start := alignUp arena.cursor layout.align
  if start + layout.size ≤ chunkSize then some start else none

/-- The region at `offset` of the head, zeroed, with the cursor behind it. -/
def carve (head : Chunk) (chunks : List Chunk) (offset size : Nat) (cache : ChunkCache) :
    Except AllocError Region × Arena × ChunkCache :=
  (.ok ⟨head, offset, size⟩, ⟨chunks, offset + size⟩,
    { cache with memory := cache.memory.fill (head.base + offset) size 0 })

/-- A further chunk as the head, for a request that starts at its first byte. -/
def extend (arena : Arena) (size : Nat) (cache : ChunkCache) :
    Except AllocError Region × Arena × ChunkCache :=
  match cache.acquire with
  | (.error error, cache) => (.error error, arena, cache)
  | (.ok chunk, cache) => carve chunk (chunk :: arena.chunks) 0 size cache

/-- Reserves zeroed bytes for `layout`. -/
def reserve (arena : Arena) (cache : ChunkCache) (layout : Layout) :
    Except AllocError Region × Arena × ChunkCache :=
  if chunkSize < layout.size || chunkAlign < layout.align then
    (.error (.oversized layout.size layout.align chunkSize), arena, cache)
  else match arena.chunks, arena.fit? layout with
    | head :: _, some offset => carve head arena.chunks offset layout.size cache
    | _, _ => arena.extend layout.size cache

/-- What a refused request means to a caller that has no other way. -/
def refusal (error : AllocError) : Crash := ⟨s!"arena allocation failed: {error.message}"⟩

/-- Reserves zeroed bytes for `layout`, or crashes. -/
def allocate (arena : Arena) (cache : ChunkCache) (layout : Layout) :
    Except Crash Region × Arena × ChunkCache :=
  match arena.reserve cache layout with
  | (.ok region, arena, cache) => (.ok region, arena, cache)
  | (.error error, arena, cache) => (.error (refusal error), arena, cache)

/-- Writes `data` from the first byte of a region on. -/
def fillRegion (cache : ChunkCache) (region : Region) (data : Array UInt8) : ChunkCache :=
  { cache with memory := cache.memory.write region.address data }

/-- Reserves bytes for `layout` and writes `data` there, or crashes. -/
def store (arena : Arena) (cache : ChunkCache) (layout : Layout) (data : Array UInt8) :
    Except Crash Region × Arena × ChunkCache :=
  match arena.allocate cache layout with
  | (.ok region, arena, cache) => (.ok region, arena, fillRegion cache region data)
  | (.error crash, arena, cache) => (.error crash, arena, cache)

/-- Returns every chunk; the head will be handed out first. -/
def free (arena : Arena) (cache : ChunkCache) : Arena × ChunkCache :=
  (empty, cache.releaseAll arena.chunks.reverse)

/-- How many chunks the arena owns. -/
def size (arena : Arena) : Nat := arena.chunks.length

/-- An address lies in a chunk of the arena. -/
def owns (arena : Arena) (address : Nat) : Bool :=
  arena.chunks.any (·.contains address)

end Arena

end LiveReload
