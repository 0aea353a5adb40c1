/-
**The arenas of a pool do not touch each other's memory.**

What was granted and is still in use can be told from the requests and the replies alone: a region
counts from the reply that names it to the next request to free its arena. If the chunks of the
system are aligned and apart, then so are all regions in use, whoever shares the cache.

* `Pool.exchanges`, `grantsInUse`: the regions in use, told from requests and replies;
* `Isolated`: these are placed in the arenas, and every chunk has one owner (`serve_isolated`);
* `Pool.serveAll_isolates`: containment, alignment, separation and ownership after any history.
-/
import LiveReload.Proofs.Memory.Conservation
import LiveReload.Proofs.Memory.Placement

namespace LiveReload

/-! ### What is in use -/

/-- Requests with what they are answered. -/
def Pool.exchanges (pool : Pool) : List PoolRequest → List (PoolRequest × PoolReply)
  | [] => []
  | request :: rest => (request, (pool.serve request).1) :: (pool.serve request).2.exchanges rest

/-- The regions in use after one more request was answered. -/
def grantsAfter (grants : List (Grant String)) :
    PoolRequest × PoolReply → List (Grant String)
  | (.allocate name layout, .region region) => ⟨name, layout, region⟩ :: grants
  | (.store name layout _, .region region) => ⟨name, layout, region⟩ :: grants
  | (.free name, _) => grants.filter fun grant => grant.owner ≠ name
  | _ => grants

/-- The regions in use after requests were answered, the last one first. -/
def grantsInUse (exchanges : List (PoolRequest × PoolReply)) : List (Grant String) :=
  exchanges.foldl grantsAfter []

namespace Pool

variable {supply : ChunkSupply} {pool : Pool} {grants : List (Grant String)}

/-! ### One owner for every chunk -/

theorem mem_owned {name : String} {chunk : Chunk} (member : chunk ∈ (pool.arena name).chunks) :
    chunk ∈ pool.owned :=
  chunks_lookup_subset name pool.arenas member

/-- No chunk belongs to two arenas. -/
theorem Conserved.one_owner (conserved : Conserved supply pool) {name other : String}
    {chunk : Chunk} (member : chunk ∈ (pool.arena name).chunks)
    (another : chunk ∈ (pool.arena other).chunks) : other = name := by
  by_contra different
  obtain ⟨others, parts, _, apart⟩ := owned_put name pool.arenas
  have once : pool.owned.Nodup := conserved.balanced.nodup.of_append_right.of_append_left
  have disjoint := (List.nodup_append'.mp (parts.nodup_iff.mp once)).2.2
  exact disjoint member (apart other different another)

/-- The chunk that the cache hands out next belongs to no arena. -/
theorem Conserved.not_owned_of_acquire (conserved : Conserved supply pool) {chunk : Chunk}
    {rest : ChunkCache} (acquired : pool.cache.acquire = (.ok chunk, rest)) (name : String) :
    chunk ∉ (pool.arena name).chunks := by
  have once := (conserved.balanced.acquired acquired).nodup.of_append_right
  have outside := (List.nodup_cons.mp once).1
  exact fun member => outside (List.mem_append_left _ (mem_owned member))

/-- Putting an arena back changes that arena alone. -/
theorem arena_put (pool : Pool) (name : String) (arena : Arena) (cache : ChunkCache)
    (live : List (String × Region)) :
    Pool.arena { pool with cache, arenas := Entries.put name arena pool.arenas, live } =
      Function.update pool.arena name arena := by
  funext other
  unfold Pool.arena
  rw [Entries.lookup_put, Function.update_apply]
  split_ifs <;> rfl

/-! ### What every request keeps -/

/-- The regions in use are those that the replies tell, they are placed in the arenas, and no chunk
is in two places. -/
structure Isolated (supply : ChunkSupply) (pool : Pool) (grants : List (Grant String)) : Prop where
  conserved : Conserved supply pool
  placed : Placed pool.arena grants
  live : pool.live = grants.map fun grant => (grant.owner, grant.region)

/-- A region that an arena reserves is one more region in use. -/
theorem Isolated.granted (isolated : Isolated supply pool grants) {name : String} {layout : Layout}
    {region : Region} {arena : Arena} {cache rest : ChunkCache}
    (reserved : (pool.arena name).reserve pool.cache layout = (.ok region, arena, rest))
    (conserved : Conserved supply
      { pool with
        cache, arenas := Entries.put name arena pool.arenas
        live := (name, region) :: pool.live }) :
    Isolated supply
      { pool with
        cache, arenas := Entries.put name arena pool.arenas
        live := (name, region) :: pool.live }
      (⟨name, layout, region⟩ :: grants) where
  conserved := conserved
  placed := by
    rw [arena_put]
    exact isolated.placed.reserved (fun _ _ => isolated.conserved.one_owner)
      (fun _ _ => isolated.conserved.not_owned_of_acquire) reserved
  live := by rw [List.map_cons, isolated.live]

theorem serve_isolated (isolated : Isolated supply pool grants) (request : PoolRequest) :
    Isolated supply (pool.serve request).2
      (grantsAfter grants (request, (pool.serve request).1)) := by
  have conserved := serve_conserved isolated.conserved request
  have ends := pool.serve_ends request
  generalize pool.serve request = served at ends conserved ⊢
  cases ends with
  | granted reserved => exact isolated.granted reserved conserved
  | stored reserved => exact isolated.granted reserved conserved
  | @refused _ name layout error arena cache asks reserved =>
    have same : arena = pool.arena name := (Arena.unchanged_of_refused reserved).1
    have kept : Isolated supply
        { pool with cache, arenas := Entries.put name arena pool.arenas } grants := by
      refine ⟨conserved, ?_, isolated.live⟩
      rw [arena_put pool name arena cache pool.live, same, Function.update_eq_self]
      exact isolated.placed
    rcases asks with rfl | ⟨data, rfl⟩ <;> exact kept
  | freed name =>
    refine ⟨conserved, ?_, ?_⟩
    · rw [arena_put]
      exact isolated.placed.freed name
    · rw [isolated.live, List.filter_map]
      rfl
  | given asks =>
    rcases asks with ⟨rfl, _⟩ | ⟨rfl, _⟩ <;> exact ⟨conserved, isolated.placed, isolated.live⟩
  | withheld => exact ⟨conserved, isolated.placed, isolated.live⟩
  | nothing => exact isolated
  | returned chunks asks =>
    rcases asks with ⟨_, rfl⟩ | ⟨_, rfl⟩ <;> exact ⟨conserved, isolated.placed, isolated.live⟩

theorem serveAll_isolated (isolated : Isolated supply pool grants) (requests : List PoolRequest) :
    Isolated supply (pool.serveAll requests)
      ((pool.exchanges requests).foldl grantsAfter grants) := by
  induction requests generalizing pool grants with
  | nil => exact isolated
  | cons request rest ih => exact ih (serve_isolated isolated request)

/-! ### Separation -/

section Separation

variable {grant other : Grant String}

/-- The chunk of a region in use was granted by the system. -/
theorem Isolated.granted_chunk (isolated : Isolated supply pool grants) (member : grant ∈ grants) :
    grant.region.chunk ∈ supply.granted pool.cache.requests := by
  have owned := mem_owned (isolated.placed.owned grant member)
  exact isolated.conserved.balanced.places.mem_iff.mp
    (List.mem_append_right _ (List.mem_append_left _ owned))

/-- A region in use is away from every chunk but its own. -/
theorem Isolated.apart_of_chunk_ne (isolated : Isolated supply pool grants)
    (sound : supply.Sound) (member : grant ∈ grants) {chunk : Chunk}
    (granted : chunk ∈ supply.granted pool.cache.requests)
    (different : chunk ≠ grant.region.chunk) :
    Apart grant.region.address grant.region.size chunk.base chunkSize := by
  have chunks := sound.chunks_apart (isolated.granted_chunk member) granted (Ne.symm different)
  have inside := (isolated.placed.fits grant member).inside
  refine chunks.inside (Nat.le_add_right _ _) ?_ (Nat.le_refl _) (Nat.le_refl _)
  unfold Region.address
  omega

/-- A region in use is away from every chunk in the cache. -/
theorem Isolated.apart_of_free (isolated : Isolated supply pool grants) (sound : supply.Sound)
    (member : grant ∈ grants) {chunk : Chunk} (free : chunk ∈ pool.cache.free) :
    Apart grant.region.address grant.region.size chunk.base chunkSize := by
  have balanced := isolated.conserved.balanced
  have owned := mem_owned (isolated.placed.owned grant member)
  have granted := balanced.places.mem_iff.mp (List.mem_append_left _ free)
  refine isolated.apart_of_chunk_ne sound member granted ?_
  rintro rfl
  exact (List.nodup_append'.mp balanced.nodup).2.2 free (List.mem_append_left _ owned)

/-- Of two regions in use the later one is behind the earlier one or in another chunk. -/
theorem Isolated.regions_apart (isolated : Isolated supply pool grants) (sound : supply.Sound)
    (member : grant ∈ grants) (another : other ∈ grants) (behind : grant.Behind other) :
    Apart grant.region.address grant.region.size other.region.address other.region.size := by
  by_cases same : grant.region.chunk = other.region.chunk
  · right
    have before := behind same
    unfold Region.address
    rw [same]
    omega
  · have chunk := isolated.apart_of_chunk_ne sound member (isolated.granted_chunk another)
      (Ne.symm same)
    have inside := (isolated.placed.fits other another).inside
    refine chunk.inside (Nat.le_refl _) (Nat.le_refl _) (Nat.le_add_right _ _) ?_
    unfold Region.address
    omega

/-- Every byte of a region in use is owned by its arena and by no other. -/
theorem Isolated.owns_iff (isolated : Isolated supply pool grants) (sound : supply.Sound)
    (member : grant ∈ grants) {address : Nat} (start : grant.region.address ≤ address)
    (stop : address < grant.region.address + grant.region.size) (name : String) :
    (pool.arena name).owns address = true ↔ name = grant.owner := by
  have owned := isolated.placed.owned grant member
  have inside := (isolated.placed.fits grant member).inside
  unfold Arena.owns
  rw [List.any_eq_true]
  constructor
  · rintro ⟨chunk, belongs, contains⟩
    by_cases same : chunk = grant.region.chunk
    · rw [same] at belongs
      exact isolated.conserved.one_owner owned belongs
    · have granted : chunk ∈ supply.granted pool.cache.requests :=
        isolated.conserved.balanced.places.mem_iff.mp
          (List.mem_append_right _ (List.mem_append_left _ (mem_owned belongs)))
      have apart := isolated.apart_of_chunk_ne sound member granted same
      simp only [Chunk.contains, Bool.and_eq_true, decide_eq_true_eq] at contains
      unfold Apart at apart
      omega
  · rintro rfl
    refine ⟨grant.region.chunk, owned, ?_⟩
    simp only [Chunk.contains, Bool.and_eq_true, decide_eq_true_eq]
    unfold Region.address at start stop
    omega

end Separation

/-- **Arenas that share a cache do not touch each other's memory.** If the chunks of the system are
aligned and apart, then after any requests every region in use lies inside one chunk of its arena,
at a multiple of the alignment asked for, apart from every other region in use and from every chunk
in the cache or with a holder; and its bytes are owned by its arena and by no other. -/
theorem serveAll_isolates (supply : ChunkSupply) (sound : supply.Sound)
    (requests : List PoolRequest) :
    let pool := (new supply).serveAll requests
    let grants := grantsInUse ((new supply).exchanges requests)
    pool.live = grants.map (fun grant => (grant.owner, grant.region)) ∧
      grants.Pairwise (fun later earlier =>
        Apart later.region.address later.region.size
          earlier.region.address earlier.region.size) ∧
      ∀ grant ∈ grants,
        grant.region.chunk ∈ (pool.arena grant.owner).chunks ∧
          grant.region.size = grant.layout.size ∧
          grant.region.offset + grant.region.size ≤ chunkSize ∧
          grant.layout.align ∣ grant.region.address ∧
          (∀ chunk ∈ pool.cache.free ++ pool.heldChunks,
            Apart grant.region.address grant.region.size chunk.base chunkSize) ∧
          ∀ address, grant.region.address ≤ address →
            address < grant.region.address + grant.region.size →
            (pool.arena grant.owner).owns address = true ∧
              ∀ other, other ≠ grant.owner → (pool.arena other).owns address = false := by
  intro pool grants
  have isolated : Isolated supply pool grants :=
    serveAll_isolated ⟨.new supply, .nothing _, rfl⟩ requests
  refine ⟨isolated.live, ?_, ?_⟩
  · refine isolated.placed.behind.imp_of_mem ?_
    intro later earlier member another behind
    exact isolated.regions_apart sound member another behind
  · intro grant member
    have fits := isolated.placed.fits grant member
    have owned := isolated.placed.owned grant member
    refine ⟨owned, fits.size, fits.inside,
      fits.dvd_address (sound.dvd_base (isolated.granted_chunk member)), ?_, ?_⟩
    · intro chunk free
      have places := isolated.conserved.balanced.places
      have order : (pool.cache.free ++ (pool.owned ++ pool.heldChunks)).Perm
          (pool.owned ++ (pool.cache.free ++ pool.heldChunks)) :=
        List.perm_append_comm_assoc _ _ _
      have once := order.nodup_iff.mp isolated.conserved.balanced.nodup
      refine isolated.apart_of_chunk_ne sound member ?_ ?_
      · exact places.mem_iff.mp (order.mem_iff.mpr (List.mem_append_right _ free))
      · rintro rfl
        exact (List.nodup_append'.mp once).2.2 (mem_owned owned) free
    · intro address start stop
      refine ⟨(isolated.owns_iff sound member start stop _).mpr rfl, ?_⟩
      intro other different
      exact Bool.eq_false_iff.mpr fun owns =>
        different ((isolated.owns_iff sound member start stop other).mp owns)

/-- The chunk of an arena that was freed serves another arena, while a third party holds a chunk. -/
theorem serveAll_isolates_spaced :
    let requests : List PoolRequest :=
      [.allocate "scene" ⟨100, 64, ⟨6, rfl⟩, by decide⟩, .free "scene",
        .store "sound" ⟨3, 1, ⟨0, rfl⟩, by decide⟩ #[7, 8, 9], .acquire "host",
        .allocate "sound" ⟨24, 8, ⟨3, rfl⟩, by decide⟩,
        .allocate "scene" ⟨0, 4096, ⟨12, rfl⟩, by decide⟩]
    let pool := (new .spaced).serveAll requests
    pool.live.map Prod.fst = ["scene", "sound", "sound"] ∧
      pool.live.Pairwise (fun later earlier =>
        Apart later.2.address later.2.size earlier.2.address earlier.2.size) := by
  intro requests pool
  obtain ⟨live, apart, _⟩ := serveAll_isolates .spaced ChunkSupply.spaced_sound requests
  refine ⟨by decide, ?_⟩
  show pool.live.Pairwise _
  rw [live, List.pairwise_map]
  exact apart

end Pool

end LiveReload
