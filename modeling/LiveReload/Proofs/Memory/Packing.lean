/-
**Little of an arena is wasted.**

When a head cannot serve a request, what is left of it is given up. But then what is left is less
than the request takes, bytes and alignment together, so the requests that two consecutive chunks
serve would not fit in one chunk. Taken over all chunks, every request is counted at most twice: at
most about half of the memory of an arena is given up, however its requests follow each other.

* `Layout.footprint`: the most that a layout takes of a chunk;
* `Grant.load`: what the regions in one chunk take at most (`Grant.sum_load`);
* `Arena.Packed`: the chunks of an arena are full, two and two;
* `Arena.Packed.reserved`: a request that is served keeps it, and so does every history of a pool
  (`Pool.serveAll_packed`);
* `Pool.serveAll_packs`: the bound for every arena after any history.
-/
import LiveReload.Proofs.Memory.OwnLayout
import LiveReload.Proofs.Memory.Refusal
import Mathlib.Algebra.BigOperators.Group.List.Basic
import Mathlib.Algebra.Ring.Nat

namespace LiveReload

/-- The most bytes of a chunk that the layout takes: its own, and those that alignment skips. -/
def Layout.footprint (layout : Layout) : Nat := layout.size + layout.align - 1

/-! ### Loads of chunks -/

namespace Grant

variable {Owner : Type}

/-- What regions take at most. -/
def footprint (grants : List (Grant Owner)) : Nat :=
  (grants.map fun grant => grant.layout.footprint).sum

/-- What the regions in one chunk take at most. -/
def load (grants : List (Grant Owner)) (chunk : Chunk) : Nat :=
  footprint (grants.filter fun grant => grant.region.chunk = chunk)

theorem footprint_cons (grant : Grant Owner) (grants : List (Grant Owner)) :
    footprint (grant :: grants) = grant.layout.footprint + footprint grants := by
  rw [footprint, List.map_cons, List.sum_cons]
  rfl

theorem load_cons (grant : Grant Owner) (grants : List (Grant Owner)) (chunk : Chunk) :
    load (grant :: grants) chunk =
      (if grant.region.chunk = chunk then grant.layout.footprint else 0) + load grants chunk := by
  unfold load
  by_cases here : grant.region.chunk = chunk
  · rw [List.filter_cons_of_pos (by simpa using here), footprint_cons, if_pos here]
  · rw [List.filter_cons_of_neg (by simpa using here), if_neg here, Nat.zero_add]

/-- The chunk that a region is in carries it. -/
theorem load_own (grant : Grant Owner) (grants : List (Grant Owner)) :
    load (grant :: grants) grant.region.chunk =
      grant.layout.footprint + load grants grant.region.chunk := by
  rw [load_cons, if_pos rfl]

theorem load_le_cons (grant : Grant Owner) (grants : List (Grant Owner)) (chunk : Chunk) :
    load grants chunk ≤ load (grant :: grants) chunk := by
  rw [load_cons]
  exact Nat.le_add_left _ _

/-- **Every region is in the load of one chunk.** -/
theorem sum_load {chunks : List Chunk} {grants : List (Grant Owner)} (once : chunks.Nodup)
    (owned : ∀ grant ∈ grants, grant.region.chunk ∈ chunks) :
    (chunks.map (load grants)).sum = footprint grants := by
  induction grants with
  | nil =>
    have nothing : load ([] : List (Grant Owner)) = fun _ => 0 := rfl
    rw [nothing, List.sum_map_zero]
    rfl
  | cons grant grants ih =>
    obtain ⟨here, others⟩ := List.forall_mem_cons.mp owned
    -- The region adds to one summand only, since its chunk is in the list once.
    have share : (chunks.map fun chunk =>
        if grant.region.chunk = chunk then grant.layout.footprint else 0).sum =
          grant.layout.footprint := by
      rw [List.sum_map_eq_nsmul_single grant.region.chunk _
        fun chunk other _ => if_neg (Ne.symm other), List.count_eq_one_of_mem once here, one_nsmul,
        if_pos rfl]
    rw [funext (load_cons grant grants), List.sum_map_add, share, ih others, footprint_cons]

end Grant

/-- If any two consecutive chunks are overfull together, a list of chunks is half full. -/
theorem Chunk.length_mul_le {load : Chunk → Nat} {chunk : Chunk} {rest : List Chunk}
    (full : (chunk :: rest).IsChain fun newer older => chunkSize < load newer + load older) :
    rest.length * chunkSize + load chunk ≤ 2 * ((chunk :: rest).map load).sum := by
  induction rest generalizing chunk with
  | nil => simp; omega
  | cons older rest ih =>
    obtain ⟨both, further⟩ := List.isChain_cons_cons.mp full
    have half := ih further
    rw [List.map_cons, List.sum_cons, List.length_cons, Nat.succ_mul]
    omega

/-! ### Full chunks -/

namespace Arena

variable {Owner : Type} {arena grown : Arena} {grants : List (Grant Owner)}

/-- The regions of the head reach at least to its cursor, and any two consecutive chunks serve more
than fits in one. -/
structure Packed (arena : Arena) (grants : List (Grant Owner)) : Prop where
  head : ∀ head rest, arena.chunks = head :: rest → arena.cursor ≤ Grant.load grants head
  full : arena.chunks.IsChain fun newer older =>
    chunkSize < Grant.load grants newer + Grant.load grants older

theorem Packed.nothing (grants : List (Grant Owner)) : Packed .empty grants where
  head _ _ owned := nomatch owned
  full := .nil

/-- A region that is granted is in the head, whether it is the head that was there or a further
chunk because this one could not take it. -/
theorem Packed.reserved {cache after : ChunkCache} {layout : Layout} {region : Region}
    (packed : arena.Packed grants) (owner : Owner)
    (reserved : arena.reserve cache layout = (.ok region, grown, after)) :
    grown.Packed (⟨owner, layout, region⟩ :: grants) := by
  have more (chunk : Chunk) := Grant.load_le_cons ⟨owner, layout, region⟩ grants chunk
  have kept : arena.chunks.IsChain fun newer older =>
      chunkSize < Grant.load (⟨owner, layout, region⟩ :: grants) newer +
        Grant.load (⟨owner, layout, region⟩ :: grants) older :=
    packed.full.imp fun newer older both =>
      Nat.lt_of_lt_of_le both (Nat.add_le_add (more newer) (more older))
  have near : alignUp arena.cursor layout.align < arena.cursor + layout.align :=
    alignUp_lt layout.align_pos
  have own : layout.footprint + 1 = layout.size + layout.align := by
    have := layout.align_pos
    unfold Layout.footprint
    omega
  have taken := Grant.load_own ⟨owner, layout, region⟩ grants
  have ends := arena.reserve_ends cache layout
  rw [reserved] at ends
  cases ends with
  | @inHead head rest _ _ owned _ =>
    dsimp only at taken
    refine ⟨?_, kept⟩
    intro first others same
    obtain ⟨rfl, -⟩ := List.cons.inj (owned.symm.trans same)
    have used : arena.cursor ≤ Grant.load grants head := packed.head head rest owned
    rw [taken]
    show alignUp arena.cursor layout.align + layout.size ≤ _
    omega
  | @inNew chunk _ _ _ full _ =>
    dsimp only at taken
    constructor
    · intro first others same
      obtain ⟨rfl, -⟩ := List.cons.inj same
      rw [taken]
      show 0 + layout.size ≤ _
      have := layout.align_pos
      omega
    · show (chunk :: arena.chunks).IsChain _
      cases owned : arena.chunks with
      | nil => exact .singleton _
      | cons older rest =>
        rw [owned] at kept full
        refine .cons_cons ?_ kept
        -- What the older chunk could not take is now in the newer one.
        have used : arena.cursor ≤ Grant.load grants older := packed.head older rest owned
        have overfull := full.resolve_left (List.cons_ne_nil _ _)
        have older_more := more older
        rw [taken]
        omega

/-- The chunks of an arena are about half full. -/
theorem Packed.half_full (packed : arena.Packed grants) (once : arena.chunks.Nodup)
    (owned : ∀ grant ∈ grants, grant.region.chunk ∈ arena.chunks) :
    (arena.size - 1) * chunkSize ≤ 2 * Grant.footprint grants := by
  rw [← Grant.sum_load once owned]
  have full := packed.full
  unfold Arena.size
  cases chunks : arena.chunks with
  | nil => simp
  | cons chunk rest =>
    rw [chunks] at full
    exact Nat.le_of_add_right_le (Chunk.length_mul_le full)

/-- Behind every cursor there is room for no bytes. -/
theorem Inside.hasRoom_of_empty (inside : arena.Inside) (some : arena.chunks ≠ []) {layout : Layout}
    (bare : layout.size = 0) (align : layout.align ≤ chunkAlign) : arena.HasRoom layout := by
  refine ⟨some, chunkSize, inside, ?_, Nat.le_of_eq (by rw [bare, Nat.add_zero])⟩
  exact Nat.dvd_trans (layout.dvd_chunkAlign align) ⟨256, rfl⟩

/-- A request for no bytes opens no chunk, unless the arena has none. -/
theorem Inside.chunks_of_empty (inside : arena.Inside) (some : arena.chunks ≠ [])
    (cache : ChunkCache) {layout : Layout} (bare : layout.size = 0) :
    (arena.reserve cache layout).2.1.chunks = arena.chunks := by
  have ends := arena.reserve_ends cache layout
  generalize arena.reserve cache layout = result at ends ⊢
  cases ends with
  | oversized | inHead | refused => rfl
  | inNew _ align full =>
    exact absurd (inside.hasRoom_of_empty some bare align) (not_hasRoom_iff.mpr full)

end Arena

/-! ### Arenas of a pool -/

/-- The regions of one arena among some regions. -/
def grantsOf (name : String) (grants : List (Grant String)) : List (Grant String) :=
  grants.filter fun grant => grant.owner = name

section GrantsOf

variable {name : String} {request : PoolRequest}

theorem grantsOf_freed (grants : List (Grant String)) (reply : PoolReply)
    (freed : request.frees name = true) :
    grantsOf name (grantsAfter grants (request, reply)) = [] := by
  cases request with
  | free arena =>
    obtain rfl : arena = name := of_decide_eq_true freed
    simp [grantsOf, grantsAfter]
  | _ => cases freed

theorem grantsOf_passed (grants : List (Grant String)) (reply : PoolReply)
    (kept : request.frees name = false) (quiet : request.layoutFor? name = none) :
    grantsOf name (grantsAfter grants (request, reply)) = grantsOf name grants := by
  cases request with
  | free arena =>
    have other : arena ≠ name := of_decide_eq_false kept
    show (grants.filter _).filter _ = grants.filter _
    rw [List.filter_filter]
    refine List.filter_congr fun grant _ => ?_
    by_cases mine : grant.owner = name
    · simp [mine, Ne.symm other]
    · simp [mine]
  | allocate arena layout | store arena layout =>
    have other : arena ≠ name := fun same => by simp [PoolRequest.layoutFor?, same] at quiet
    cases reply with
    | region region => exact List.filter_cons_of_neg (by simpa using other)
    | _ => rfl
  | _ => rfl

theorem grantsOf_granted (grants : List (Grant String)) (region : Region) {layout : Layout}
    (asks : request.layoutFor? name = some layout) :
    grantsOf name (grantsAfter grants (request, .region region)) =
      ⟨name, layout, region⟩ :: grantsOf name grants := by
  cases request with
  | allocate arena other | store arena other =>
    obtain ⟨rfl, rfl⟩ : arena = name ∧ other = layout := by
      simpa [PoolRequest.layoutFor?] using asks
    exact List.filter_cons_of_pos (decide_eq_true rfl)
  | _ => cases asks

theorem grantsOf_refused (grants : List (Grant String)) (error : AllocError) {layout : Layout}
    (asks : request.layoutFor? name = some layout) :
    grantsOf name (grantsAfter grants (request, .refused error)) = grantsOf name grants := by
  cases request with
  | allocate | store => rfl
  | _ => cases asks

end GrantsOf

namespace Pool

variable {pool : Pool} {grants : List (Grant String)}

theorem serve_packed (packed : ∀ name, (pool.arena name).Packed (grantsOf name grants))
    (request : PoolRequest) (name : String) :
    ((pool.serve request).2.arena name).Packed
      (grantsOf name (grantsAfter grants (request, (pool.serve request).1))) := by
  have turn := pool.serve_turn request name
  generalize (pool.serve request).1 = reply, (pool.serve request).2.arena name = arena at turn ⊢
  cases turn with
  | freed freed =>
    rw [grantsOf_freed grants reply freed]
    exact .nothing _
  | passed kept quiet =>
    rw [grantsOf_passed grants reply kept quiet]
    exact packed name
  | @asked layout answer _ _ kept asks reserved =>
    cases answer with
    | ok region =>
      rw [replyOf, grantsOf_granted grants region asks]
      exact (packed name).reserved name reserved
    | error error =>
      rw [replyOf, grantsOf_refused grants error asks, (Arena.unchanged_of_refused reserved).1]
      exact packed name

theorem serveAll_packed (packed : ∀ name, (pool.arena name).Packed (grantsOf name grants))
    (requests : List PoolRequest) (name : String) :
    ((pool.serveAll requests).arena name).Packed
      (grantsOf name ((pool.exchanges requests).foldl grantsAfter grants)) := by
  induction requests generalizing pool grants with
  | nil => exact packed name
  | cons request rest ih => exact ih (serve_packed packed request)

/-- **Little of an arena is wasted.** After any requests of arenas and holders, take the requests
that an arena has served since it was empty, each with its size and the bytes that its alignment may
skip. All but one of the chunks of the arena hold at most twice as many bytes as these requests take
together, because the requests of any two consecutive chunks take more than a chunk has, and every
request is in one chunk. An arena that has a chunk opens no other for a request without bytes. -/
theorem serveAll_packs (supply : ChunkSupply) (requests : List PoolRequest) (name : String) :
    let arena := ((new supply).serveAll requests).arena name
    let grants := grantsOf name (grantsInUse ((new supply).exchanges requests))
    (arena.size - 1) * chunkSize ≤ 2 * Grant.footprint grants ∧
      (arena.chunks.IsChain fun newer older =>
        chunkSize < Grant.load grants newer + Grant.load grants older) ∧
      (arena.chunks.map (Grant.load grants)).sum = Grant.footprint grants ∧
      ∀ layout : Layout, layout.size = 0 → arena.chunks ≠ [] → ∀ cache,
        (arena.reserve cache layout).2.1.chunks = arena.chunks := by
  intro arena grants
  have unused (name : String) : ((new supply).arena name).Packed (grantsOf name []) := .nothing _
  have packed : arena.Packed grants := serveAll_packed unused requests name
  have isolated : Isolated supply ((new supply).serveAll requests)
      (grantsInUse ((new supply).exchanges requests)) :=
    serveAll_isolated ⟨.new supply, .nothing _, rfl⟩ requests
  have once : arena.chunks.Nodup := isolated.conserved.nodup_chunks name
  have owned : ∀ grant ∈ grants, grant.region.chunk ∈ arena.chunks := by
    intro grant member
    obtain ⟨inUse, mine⟩ := List.mem_filter.mp member
    obtain rfl : grant.owner = name := of_decide_eq_true mine
    exact isolated.placed.owned grant inUse
  have inside : arena.Inside := serveAll_inside supply requests name
  exact ⟨packed.half_full once owned, packed.full, Grant.sum_load once owned,
    fun layout bare some cache => inside.chunks_of_empty some cache bare⟩

end Pool

end LiveReload
