/-
**No chunk of a pool is lost.**

Chunks go from the system to arenas and holders, from there to the cache, and from the cache to
arenas and holders again. After every history of requests each chunk that the system ever granted is
in one place: in the cache, in one arena, or with one holder.

* `Pool.owned`, `Pool.heldChunks`: the chunks outside the cache;
* `ServeEnds`: everything that a request can do to a pool;
* `Conserved`: the balance of the cache with these, kept by every request (`serve_conserved`);
* `serveAll_conserves`: the places of all chunks and the counters of the cache after any history.
-/
import LiveReload.Memory.Pool
import LiveReload.Proofs.Memory.Ledger

namespace LiveReload

namespace Pool

/-! ### The chunks outside the cache -/

/-- The chunks that the arenas own, arena by arena. -/
def owned (pool : Pool) : List Chunk := pool.arenas.flatMap fun entry => entry.2.chunks

/-- The chunks that others hold. -/
def heldChunks (pool : Pool) : List Chunk := pool.held.map Prod.snd

/-- The chunks of an arena are among those of all arenas. -/
theorem chunks_lookup_subset (name : String) (arenas : List (String × Arena)) :
    ((arenas.lookup name).getD .empty).chunks ⊆ arenas.flatMap fun entry => entry.2.chunks := by
  cases found : arenas.lookup name with
  | none => exact List.nil_subset _
  | some arena =>
    obtain ⟨before, after, rfl, _⟩ := List.lookup_eq_some_iff.mp found
    intro chunk member
    exact List.mem_flatMap.mpr ⟨(name, arena), by simp, member⟩

/-- An arena that is put back changes its own chunks among those that the arenas own; the chunks of
every other arena are among the others. -/
theorem owned_put (name : String) (arenas : List (String × Arena)) :
    ∃ others : List Chunk,
      (arenas.flatMap fun entry => entry.2.chunks).Perm
        (((arenas.lookup name).getD .empty).chunks ++ others) ∧
      (∀ arena : Arena, ((Entries.put name arena arenas).flatMap fun entry => entry.2.chunks).Perm
        (arena.chunks ++ others)) ∧
      ∀ other, other ≠ name → ((arenas.lookup other).getD .empty).chunks ⊆ others := by
  induction arenas with
  | nil => exact ⟨[], List.Perm.refl _, fun arena => List.Perm.refl _, by simp [Arena.empty]⟩
  | cons entry rest ih =>
    obtain ⟨key, held⟩ := entry
    by_cases same : key = name
    · subst same
      refine ⟨rest.flatMap fun entry => entry.2.chunks, ?_, ?_, ?_⟩
      · rw [Entries.lookup_cons_eq, if_pos rfl]
        exact List.Perm.refl _
      · intro arena
        rw [Entries.put, if_pos rfl]
        exact List.Perm.refl _
      · intro other different
        rw [Entries.lookup_cons_eq, if_neg different]
        exact chunks_lookup_subset other rest
    · obtain ⟨others, before, after, apart⟩ := ih
      refine ⟨held.chunks ++ others, ?_, ?_, ?_⟩
      · rw [Entries.lookup_cons_eq, if_neg (Ne.symm same), List.flatMap_cons]
        exact (before.append_left _).trans (List.perm_append_comm_assoc _ _ _)
      · intro arena
        rw [Entries.put, if_neg same, List.flatMap_cons]
        exact ((after arena).append_left _).trans (List.perm_append_comm_assoc _ _ _)
      · intro other different
        rw [Entries.lookup_cons_eq]
        by_cases first : other = key
        · rw [if_pos first]
          exact List.subset_append_left _ _
        · rw [if_neg first]
          exact List.subset_append_of_subset_right _ (apart other different)

/-- The names of the entries stay apart. -/
theorem names_put {name : String} {arena : Arena} {arenas : List (String × Arena)}
    (apart : (arenas.map Prod.fst).Nodup) :
    ((Entries.put name arena arenas).map Prod.fst).Nodup := by
  have names : (Entries.put name arena arenas).map Prod.fst =
      if name ∈ arenas.map Prod.fst then arenas.map Prod.fst
      else arenas.map Prod.fst ++ [name] := by
    clear apart
    induction arenas with
    | nil => rfl
    | cons entry rest ih =>
      by_cases same : entry.1 = name
      · simp [Entries.put, same]
      · rw [Entries.put, if_neg same, List.map_cons, ih]
        by_cases later : name ∈ rest.map Prod.fst
        · simp [later]
        · simp [later, Ne.symm same]
  rw [names]
  by_cases known : name ∈ arenas.map Prod.fst
  · rw [if_pos known]
    exact apart
  · rw [if_neg known]
    exact apart.append (List.nodup_singleton _) (by simpa using known)

/-- A chunk that is taken from its holder is no longer held, and all others are. -/
theorem removeHeld_perm (held : List (String × Chunk)) (holder : String) :
    (held.map Prod.snd).Perm
      ((removeHeld held holder).1.toList ++ (removeHeld held holder).2.map Prod.snd) := by
  induction held with
  | nil => exact List.Perm.refl _
  | cons entry rest ih =>
    obtain ⟨other, chunk⟩ := entry
    unfold removeHeld
    by_cases same : other = holder
    · rw [if_pos same]
      exact List.Perm.refl _
    · rw [if_neg same]
      exact (ih.cons chunk).trans List.perm_middle.symm

theorem removeAllHeld_perm (held : List (String × Chunk)) (holders : List String) :
    (held.map Prod.snd).Perm
      ((removeAllHeld held holders).1 ++ (removeAllHeld held holders).2.map Prod.snd) := by
  induction holders generalizing held with
  | nil => exact List.Perm.refl _
  | cons holder others ih =>
    unfold removeAllHeld
    refine (removeHeld_perm held holder).trans ?_
    rw [List.append_assoc]
    exact (ih _).append_left _

/-! ### What a request does -/

/-- Everything that a request can do to a pool. -/
inductive ServeEnds (pool : Pool) : PoolRequest → PoolReply × Pool → Prop
  | granted {name : String} {layout : Layout} {region : Region} {arena : Arena} {cache : ChunkCache}
      (reserved : (pool.arena name).reserve pool.cache layout = (.ok region, arena, cache)) :
    ServeEnds pool (.allocate name layout)
      (.region region,
        { pool with
          cache, arenas := Entries.put name arena pool.arenas
          live := (name, region) :: pool.live })
  | stored {name : String} {layout : Layout} {region : Region} {arena : Arena} {cache : ChunkCache}
      {data : Array UInt8}
      (reserved : (pool.arena name).reserve pool.cache layout = (.ok region, arena, cache)) :
    ServeEnds pool (.store name layout data)
      (.region region,
        { pool with
          cache := Arena.fillRegion cache region data
          arenas := Entries.put name arena pool.arenas, live := (name, region) :: pool.live })
  | refused {request : PoolRequest} {name : String} {layout : Layout} {error : AllocError}
      {arena : Arena} {cache : ChunkCache}
      (asks : request = .allocate name layout ∨ ∃ data, request = .store name layout data)
      (reserved : (pool.arena name).reserve pool.cache layout = (.error error, arena, cache)) :
    ServeEnds pool request
      (.refused error, { pool with cache, arenas := Entries.put name arena pool.arenas })
  | freed (name : String) :
    ServeEnds pool (.free name)
      (.done,
        { pool with
          cache := pool.cache.releaseAll (pool.arena name).chunks.reverse
          arenas := Entries.put name .empty pool.arenas
          live := pool.live.filter fun (owner, _) => owner ≠ name })
  | given {request : PoolRequest} {holder : String} {chunk : Chunk} {cache : ChunkCache}
      (asks : request = .acquire holder ∧ pool.cache.acquire = (.ok chunk, cache) ∨
        request = .take holder ∧ pool.cache.take? = some (chunk, cache)) :
    ServeEnds pool request
      (.chunk (some chunk), { pool with cache, held := (holder, chunk) :: pool.held })
  | withheld {holder : String} {error : AllocError} {cache : ChunkCache}
      (acquired : pool.cache.acquire = (.error error, cache)) :
    ServeEnds pool (.acquire holder) (.refused error, { pool with cache })
  | nothing {holder : String} (taken : pool.cache.take? = none) :
    ServeEnds pool (.take holder) (.chunk none, pool)
  | returned {request : PoolRequest} (chunks : List Chunk) {held : List (String × Chunk)}
      (asks : (∃ holder, request = .release holder) ∨ ∃ holders, request = .releaseAll holders)
      (parts : (pool.held.map Prod.snd).Perm (chunks ++ held.map Prod.snd)) :
    ServeEnds pool request
      (.done, { pool with cache := pool.cache.releaseAll chunks, held })

theorem serve_ends (pool : Pool) (request : PoolRequest) :
    ServeEnds pool request (pool.serve request) := by
  cases request with
  | allocate name layout =>
    show ServeEnds pool _ (pool.settle name ((pool.arena name).reserve pool.cache layout))
    rcases reserved : (pool.arena name).reserve pool.cache layout with
      ⟨error | region, arena, cache⟩
    · exact .refused (.inl rfl) reserved
    · exact .granted reserved
  | store name layout data =>
    unfold serve
    dsimp only
    rcases reserved : (pool.arena name).reserve pool.cache layout with
      ⟨error | region, arena, cache⟩
    · exact .refused (.inr ⟨data, rfl⟩) reserved
    · exact .stored reserved
  | free name => exact .freed name
  | acquire holder =>
    unfold serve
    dsimp only
    rcases acquired : pool.cache.acquire with ⟨error | chunk, cache⟩
    · exact .withheld acquired
    · exact .given (.inl ⟨rfl, acquired⟩)
  | take holder =>
    unfold serve
    dsimp only
    rcases taken : pool.cache.take? with _ | ⟨chunk, cache⟩
    · exact .nothing taken
    · exact .given (.inr ⟨rfl, taken⟩)
  | release holder =>
    have parts := removeHeld_perm pool.held holder
    unfold serve
    dsimp only
    rcases removed : removeHeld pool.held holder with ⟨none | chunk, held⟩
    · exact .returned [] (.inl ⟨holder, rfl⟩) (List.Perm.refl _)
    · rw [removed] at parts
      exact .returned [chunk] (.inl ⟨holder, rfl⟩) parts
  | releaseAll holders =>
    exact .returned _ (.inr ⟨holders, rfl⟩) (removeAllHeld_perm pool.held holders)

/-! ### What every request keeps -/

/-- The cache is balanced with the chunks of the arenas and the holders, and no two arenas share a
name. -/
structure Conserved (supply : ChunkSupply) (pool : Pool) : Prop where
  balanced : Balanced supply pool.cache (pool.owned ++ pool.heldChunks)
  names : (pool.arenas.map Prod.fst).Nodup

theorem Conserved.new (supply : ChunkSupply) : Conserved supply (new supply) :=
  ⟨.new supply, List.nodup_nil⟩

section Requests

variable {supply : ChunkSupply} {pool : Pool}

/-- A request to one arena that balances the cache with its chunks balances the whole pool. -/
theorem Conserved.put {name : String} {arena : Arena} {cache : ChunkCache}
    (live : List (String × Region)) (conserved : Conserved supply pool)
    (one : ∀ rest, Balanced supply pool.cache ((pool.arena name).chunks ++ rest) →
      Balanced supply cache (arena.chunks ++ rest)) :
    Conserved supply
      { pool with cache, arenas := Entries.put name arena pool.arenas, live } where
  balanced := by
    obtain ⟨others, before, after, _⟩ := owned_put name pool.arenas
    have whole : Balanced supply pool.cache
        ((pool.arena name).chunks ++ (others ++ pool.heldChunks)) := by
      rw [← List.append_assoc]
      exact conserved.balanced.perm (before.append_right _)
    refine (one _ whole).perm ?_
    rw [← List.append_assoc]
    exact ((after arena).append_right _).symm
  names := names_put conserved.names

/-- A chunk goes to a holder. -/
theorem Conserved.give {holder : String} {chunk : Chunk} {cache : ChunkCache}
    (conserved : Conserved supply pool)
    (one : ∀ outside, Balanced supply pool.cache outside →
      Balanced supply cache (chunk :: outside)) :
    Conserved supply { pool with cache, held := (holder, chunk) :: pool.held } where
  balanced := (one _ conserved.balanced).perm List.perm_middle.symm
  names := conserved.names

theorem serve_conserved (conserved : Conserved supply pool) (request : PoolRequest) :
    Conserved supply (pool.serve request).2 := by
  have ends := pool.serve_ends request
  generalize pool.serve request = served at ends ⊢
  cases ends with
  | granted reserved => exact conserved.put _ fun rest balanced => balanced.reserved reserved
  | stored reserved =>
    exact conserved.put _ fun rest balanced => (balanced.reserved reserved).memory _
  | refused asks reserved =>
    exact conserved.put pool.live fun rest balanced => balanced.reserved reserved
  | freed name =>
    exact conserved.put _ fun rest balanced =>
      balanced.releaseAll _ ((List.reverse_perm _).symm.append_right _)
  | given asks =>
    refine conserved.give fun outside balanced => ?_
    rcases asks with ⟨_, acquired⟩ | ⟨_, taken⟩
    · exact balanced.acquired acquired
    · obtain ⟨rest, free, rfl⟩ := ChunkCache.take?_eq_some taken
      exact balanced.taken free
  | withheld acquired => exact ⟨conserved.balanced.refused acquired, conserved.names⟩
  | nothing => exact conserved
  | returned chunks asks parts =>
    exact ⟨conserved.balanced.releaseAll _
      ((parts.append_left _).trans (List.perm_append_comm_assoc _ _ _)), conserved.names⟩

/-- What every request keeps, every history of requests keeps. -/
theorem serveAll_keeps (kept : Pool → Prop)
    (step : ∀ pool, kept pool → ∀ request, kept (pool.serve request).2) (start : kept pool)
    (requests : List PoolRequest) : kept (pool.serveAll requests) := by
  induction requests generalizing pool with
  | nil => exact start
  | cons request rest ih => exact ih (step pool start request)

theorem serveAll_conserved (conserved : Conserved supply pool) (requests : List PoolRequest) :
    Conserved supply (pool.serveAll requests) :=
  serveAll_keeps (Conserved supply) (fun _ kept => serve_conserved kept) conserved requests

end Requests

end Pool

/-! ### The counters -/

/-- The stats are the counters of the cache; only the share of hits is worked out for them. -/
theorem ChunkCache.stats_counts (cache : ChunkCache) :
    cache.stats.systemAllocations = cache.systemAllocations ∧
      cache.stats.systemBytes = cache.systemBytes ∧ cache.stats.cacheHits = cache.cacheHits ∧
      cache.stats.released = cache.released ∧ cache.stats.cached = cache.cached := by
  unfold stats ChunkCounts.withReuseRatio
  dsimp only
  split_ifs <;> exact ⟨rfl, rfl, rfl, rfl, rfl⟩

/-- **No chunk is lost or duplicated, and the counters are true.** After any requests of arenas and
holders, whatever the system refuses: the cache, the arenas and the holders have the chunks that the
system granted, each in one place; the counters say how many were granted and how many bytes that
is, that every release was followed by a hit or left its chunk in the cache, and how many chunks are
in use. -/
theorem Pool.serveAll_conserves (supply : ChunkSupply) (requests : List PoolRequest) :
    let pool := (Pool.new supply).serveAll requests
    let granted := supply.granted pool.cache.requests
    let stats := pool.cache.stats
    granted.Nodup ∧ (pool.arenas.map Prod.fst).Nodup ∧
      (pool.cache.free ++ (pool.owned ++ pool.heldChunks)).Perm granted ∧
      stats.systemAllocations = granted.length ∧
      stats.systemBytes = chunkSize * granted.length ∧
      stats.cached = pool.cache.cached ∧
      stats.released = stats.cacheHits + pool.cache.cached ∧
      stats.cached ≤ stats.systemAllocations ∧
      stats.inUse = pool.owned.length + pool.held.length := by
  intro pool granted stats
  have conserved : Conserved supply pool := serveAll_conserved (.new supply) requests
  have balanced := conserved.balanced
  obtain ⟨allocations, bytes, hits, released, cached⟩ := pool.cache.stats_counts
  obtain ⟨outside, enough⟩ := balanced.outside_length
  refine ⟨supply.nodup_granted _, conserved.names, balanced.places, ?_, ?_, cached, ?_, ?_, ?_⟩
  · exact allocations.trans balanced.systemAllocations
  · rw [bytes, balanced.systemBytes, balanced.systemAllocations]
  · rw [released, hits]
    exact balanced.released
  · rw [cached, allocations]
    exact enough
  · unfold ChunkCounts.inUse
    rw [allocations, cached, ← (List.length_map Prod.snd : pool.heldChunks.length = _),
      ← List.length_append]
    exact outside.symm

end LiveReload
