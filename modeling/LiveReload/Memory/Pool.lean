/-
**Many owners of one cache.**

A pool is a cache with everyone who takes chunks from it: arenas, known by name, and holders of
single chunks. `Pool.serve` performs one request, and `Pool.serveAll` a history of them, in which
`Pool.live` keeps the regions that no `free` has ended yet.
-/
import LiveReload.Entries
import LiveReload.Memory.Arena

namespace LiveReload

/-- A cache, the arenas and the single chunks that others hold, and the regions in use. -/
structure Pool where
  cache : ChunkCache
  arenas : List (String × Arena)
  held : List (String × Chunk)
  /-- Regions with the arena that they belong to, the last one first. -/
  live : List (String × Region)

/-- What can be asked of a pool. -/
inductive PoolRequest
  | allocate (arena : String) (layout : Layout)
  | store (arena : String) (layout : Layout) (data : Array UInt8)
  | free (arena : String)
  | acquire (holder : String)
  | take (holder : String)
  | release (holder : String)
  | releaseAll (holders : List String)

/-- What a pool answers. -/
inductive PoolReply
  | region (region : Region)
  | refused (error : AllocError)
  | chunk (chunk : Option Chunk)
  | done

namespace Pool

/-- A pool that no one has used. -/
def new (supply : ChunkSupply) : Pool := ⟨.new supply, [], [], []⟩

/-- The arena with a name, empty until it was used. -/
def arena (pool : Pool) (name : String) : Arena := (pool.arenas.lookup name).getD .empty

/-- The chunk that a holder took last. -/
def heldBy (pool : Pool) (holder : String) : Option Chunk := pool.held.lookup holder

/-- Takes the chunk that a holder took last away from it. -/
def removeHeld (held : List (String × Chunk)) (holder : String) :
    Option Chunk × List (String × Chunk) :=
  match held with
  | [] => (none, [])
  | (other, chunk) :: rest =>
    if other = holder then (some chunk, rest)
    else
      let (found, kept) := removeHeld rest holder
      (found, (other, chunk) :: kept)

/-- Takes away one chunk from each of several holders, in order. -/
def removeAllHeld : List (String × Chunk) → List String → List Chunk × List (String × Chunk)
  | held, [] => ([], held)
  | held, holder :: others =>
    let (found, held) := removeHeld held holder
    let (chunks, held) := removeAllHeld held others
    (found.toList ++ chunks, held)

/-- Gives a chunk to a holder. -/
def give (pool : Pool) (holder : String) (chunk : Chunk) (cache : ChunkCache) :
    PoolReply × Pool :=
  (.chunk (some chunk), { pool with cache, held := (holder, chunk) :: pool.held })

/-- Puts an arena back after a request to it. -/
def settle (pool : Pool) (name : String) :
    Except AllocError Region × Arena × ChunkCache → PoolReply × Pool
  | (.ok region, arena, cache) =>
    (.region region,
      { pool with
        cache, arenas := Entries.put name arena pool.arenas, live := (name, region) :: pool.live })
  | (.error error, arena, cache) =>
    (.refused error, { pool with cache, arenas := Entries.put name arena pool.arenas })

/-- Performs one request. -/
def serve (pool : Pool) : PoolRequest → PoolReply × Pool
  | .allocate name layout => pool.settle name ((pool.arena name).reserve pool.cache layout)
  | .store name layout data =>
    match pool.settle name ((pool.arena name).reserve pool.cache layout) with
    | (.region region, pool) =>
      (.region region, { pool with cache := Arena.fillRegion pool.cache region data })
    | other => other
  | .free name =>
    let (arena, cache) := (pool.arena name).free pool.cache
    (.done,
      { pool with
        cache, arenas := Entries.put name arena pool.arenas
        live := pool.live.filter fun (owner, _) => owner ≠ name })
  | .acquire holder =>
    match pool.cache.acquire with
    | (.ok chunk, cache) => pool.give holder chunk cache
    | (.error error, cache) => (.refused error, { pool with cache })
  | .take holder =>
    match pool.cache.take? with
    | some (chunk, cache) => pool.give holder chunk cache
    | none => (.chunk none, pool)
  | .release holder =>
    match removeHeld pool.held holder with
    | (some chunk, held) => (.done, { pool with cache := pool.cache.release chunk, held })
    | (none, _) => (.done, pool)
  | .releaseAll holders =>
    let (chunks, held) := removeAllHeld pool.held holders
    (.done, { pool with cache := pool.cache.releaseAll chunks, held })

/-- Performs requests in order. -/
def serveAll (pool : Pool) (requests : List PoolRequest) : Pool :=
  requests.foldl (fun pool request => (pool.serve request).2) pool

/-- Writes bytes inside a region. -/
def write (pool : Pool) (region : Region) (offset : Nat) (data : Array UInt8) : Pool :=
  { pool with
    cache := { pool.cache with
      memory := pool.cache.memory.write (region.address + offset) data } }

/-- Fills a region with one byte. -/
def fill (pool : Pool) (region : Region) (value : UInt8) : Pool :=
  { pool with
    cache := { pool.cache with memory := pool.cache.memory.fill region.address region.size value } }

end Pool

end LiveReload
