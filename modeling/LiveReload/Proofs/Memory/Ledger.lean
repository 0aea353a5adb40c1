/-
**The ledger of a cache.**

The answers of the system to the requests so far say which chunks there are: `ChunkSupply.granted`.
A cache is balanced with the chunks outside it when the two together are these chunks, each once,
and its counters say how many there are and how they moved.

* `AcquireEnds`, `ReserveEnds`: everything that a request for a chunk, or for bytes of an arena, can
  come to;
* `Balanced`: the cache and what is outside it make up what the system granted;
* `Balanced.acquired`, `Balanced.releaseAll`, `Balanced.reserved`: every operation keeps it, and
  says which chunks it moves.
-/
import LiveReload.Memory.Arena
import Mathlib.Data.List.Nodup

namespace LiveReload

/-! ### What the system granted -/

/-- The chunks that the first `asked` requests to the system brought, in order. -/
def ChunkSupply.granted (supply : ChunkSupply) : Nat → List Chunk
  | 0 => []
  | asked + 1 =>
    match supply.base asked with
    | none => supply.granted asked
    | some base => supply.granted asked ++ [⟨(supply.granted asked).length, base⟩]

namespace ChunkSupply

variable {supply : ChunkSupply} {asked : Nat}

theorem granted_refused (refused : supply.base asked = none) :
    supply.granted (asked + 1) = supply.granted asked := by
  rw [granted, refused]

theorem granted_answered {base : Nat} (answered : supply.base asked = some base) :
    supply.granted (asked + 1) =
      supply.granted asked ++ [⟨(supply.granted asked).length, base⟩] := by
  rw [granted, answered]

/-- A request brings one more chunk, if the system answers it. -/
theorem mem_granted_succ {chunk : Chunk} :
    chunk ∈ supply.granted (asked + 1) ↔
      chunk ∈ supply.granted asked ∨
        ∃ base, supply.base asked = some base ∧
          chunk = ⟨(supply.granted asked).length, base⟩ := by
  cases answer : supply.base asked with
  | none => simp [granted_refused answer]
  | some base => simp [granted_answered answer]

theorem serial_lt {chunk : Chunk} (member : chunk ∈ supply.granted asked) :
    chunk.serial < (supply.granted asked).length := by
  induction asked with
  | zero => cases member
  | succ asked ih =>
    cases answer : supply.base asked with
    | none =>
      rw [granted_refused answer] at member ⊢
      exact ih member
    | some base =>
      rw [granted_answered answer] at member ⊢
      rw [List.length_append, List.length_singleton]
      rcases List.mem_append.mp member with before | last
      · have := ih before
        omega
      · rw [List.mem_singleton.mp last]
        exact Nat.lt_succ_self _

/-- No chunk is granted twice. -/
theorem nodup_granted (supply : ChunkSupply) (asked : Nat) : (supply.granted asked).Nodup := by
  induction asked with
  | zero => exact List.nodup_nil
  | succ asked ih =>
    cases answer : supply.base asked with
    | none =>
      rw [granted_refused answer]
      exact ih
    | some base =>
      rw [granted_answered answer]
      refine ih.append (List.nodup_singleton _) ?_
      intro chunk before last
      have := serial_lt before
      rw [List.mem_singleton.mp last] at this
      exact Nat.lt_irrefl _ this

end ChunkSupply

/-! ### What a request comes to -/

/-- Everything that a request for a chunk can come to. -/
inductive AcquireEnds (cache : ChunkCache) : Except AllocError Chunk × ChunkCache → Prop
  | cached {chunk : Chunk} {rest : List Chunk} (free : cache.free = chunk :: rest) :
    AcquireEnds cache (.ok chunk, { cache with free := rest, cacheHits := cache.cacheHits + 1 })
  | granted {base : Nat} (empty : cache.free = [])
      (answered : cache.supply.base cache.requests = some base) :
    AcquireEnds cache (.ok ⟨cache.systemAllocations, base⟩,
      { cache with
        requests := cache.requests + 1
        systemAllocations := cache.systemAllocations + 1
        systemBytes := cache.systemBytes + chunkSize })
  | refused (empty : cache.free = []) (refused : cache.supply.base cache.requests = none) :
    AcquireEnds cache (.error (.outOfMemory chunkSize),
      { cache with requests := cache.requests + 1 })

theorem ChunkCache.take?_eq_some {cache after : ChunkCache} {chunk : Chunk}
    (taken : cache.take? = some (chunk, after)) :
    ∃ rest, cache.free = chunk :: rest ∧
      after = { cache with free := rest, cacheHits := cache.cacheHits + 1 } := by
  unfold take? at taken
  split at taken
  · cases taken
  · next first rest free =>
    obtain ⟨rfl, rfl⟩ := Prod.mk.inj (Option.some.inj taken)
    exact ⟨rest, free, rfl⟩

theorem ChunkCache.take?_eq_none {cache : ChunkCache} (nothing : cache.take? = none) :
    cache.free = [] := by
  unfold take? at nothing
  split at nothing
  · next free => exact free
  · cases nothing

theorem ChunkCache.acquire_ends (cache : ChunkCache) : AcquireEnds cache cache.acquire := by
  unfold acquire
  split
  · next chunk after taken =>
    obtain ⟨rest, free, rfl⟩ := take?_eq_some taken
    exact .cached free
  · next nothing =>
    have empty := take?_eq_none nothing
    unfold request
    split
    · next answer => exact .refused empty answer
    · next base answer => exact .granted empty answer

/-- Everything that a request for bytes of an arena can come to. -/
inductive ReserveEnds (arena : Arena) (cache : ChunkCache) (layout : Layout) :
    Except AllocError Region × Arena × ChunkCache → Prop
  | oversized (large : chunkSize < layout.size ∨ chunkAlign < layout.align) :
    ReserveEnds arena cache layout
      (.error (.oversized layout.size layout.align chunkSize), arena, cache)
  | inHead {head : Chunk} {rest : List Chunk} (size : layout.size ≤ chunkSize)
      (align : layout.align ≤ chunkAlign) (owned : arena.chunks = head :: rest)
      (fits : alignUp arena.cursor layout.align + layout.size ≤ chunkSize) :
    ReserveEnds arena cache layout
      (Arena.carve head arena.chunks (alignUp arena.cursor layout.align) layout.size cache)
  | inNew {chunk : Chunk} {after : ChunkCache} (size : layout.size ≤ chunkSize)
      (align : layout.align ≤ chunkAlign)
      (full : arena.chunks = [] ∨ chunkSize < alignUp arena.cursor layout.align + layout.size)
      (acquired : cache.acquire = (.ok chunk, after)) :
    ReserveEnds arena cache layout
      (Arena.carve chunk (chunk :: arena.chunks) 0 layout.size after)
  | refused {error : AllocError} {after : ChunkCache} (size : layout.size ≤ chunkSize)
      (align : layout.align ≤ chunkAlign)
      (full : arena.chunks = [] ∨ chunkSize < alignUp arena.cursor layout.align + layout.size)
      (acquired : cache.acquire = (.error error, after)) :
    ReserveEnds arena cache layout (.error error, arena, after)

namespace Arena

/-- An arena that has no room in its head gets a further chunk, if there is one. -/
theorem extend_ends (arena : Arena) (cache : ChunkCache) {layout : Layout}
    (size : layout.size ≤ chunkSize) (align : layout.align ≤ chunkAlign)
    (full : arena.chunks = [] ∨ chunkSize < alignUp arena.cursor layout.align + layout.size) :
    ReserveEnds arena cache layout (arena.extend layout.size cache) := by
  unfold extend
  rcases acquired : cache.acquire with ⟨error | chunk, after⟩
  · exact .refused size align full acquired
  · exact .inNew size align full acquired

theorem reserve_ends (arena : Arena) (cache : ChunkCache) (layout : Layout) :
    ReserveEnds arena cache layout (arena.reserve cache layout) := by
  unfold reserve
  split
  · next large => exact .oversized (by simpa using large)
  · next small =>
    simp only [Bool.or_eq_true, decide_eq_true_eq, not_or, Nat.not_lt] at small
    unfold fit?
    by_cases fits : alignUp arena.cursor layout.align + layout.size ≤ chunkSize
    · rw [if_pos fits]
      split
      · next owned some =>
        obtain rfl := Option.some.inj some
        exact .inHead small.1 small.2 owned fits
      · next nothing =>
        -- The offset fits, so what is missing is a head to put the bytes in.
        refine arena.extend_ends cache small.1 small.2 (.inl ?_)
        cases owned : arena.chunks with
        | nil => rfl
        | cons head rest => exact absurd rfl (nothing head rest _ owned)
    · rw [if_neg fits]
      have full := arena.extend_ends cache small.1 small.2 (.inr (Nat.lt_of_not_le fits))
      cases arena.chunks <;> exact full

/-- **A refused request changes nothing**, except that the system may have been asked. -/
theorem unchanged_of_refused {arena grown : Arena} {cache after : ChunkCache} {layout : Layout}
    {error : AllocError} (refused : arena.reserve cache layout = (.error error, grown, after)) :
    grown = arena ∧ after = { cache with requests := after.requests } := by
  have ends := arena.reserve_ends cache layout
  rw [refused] at ends
  cases ends with
  | oversized => exact ⟨rfl, rfl⟩
  | refused _ _ _ acquired =>
    have ends := cache.acquire_ends
    rw [acquired] at ends
    cases ends
    exact ⟨rfl, rfl⟩

end Arena

/-! ### The balance -/

/-- The cache and the chunks outside it are what the system granted, each chunk once, and the
counters say how many there are. -/
structure Balanced (supply : ChunkSupply) (cache : ChunkCache) (outside : List Chunk) : Prop where
  source : cache.supply = supply
  places : (cache.free ++ outside).Perm (supply.granted cache.requests)
  systemAllocations : cache.systemAllocations = (supply.granted cache.requests).length
  systemBytes : cache.systemBytes = chunkSize * cache.systemAllocations
  released : cache.released = cache.cacheHits + cache.free.length

namespace Balanced

variable {supply : ChunkSupply} {cache after : ChunkCache} {outside kept : List Chunk}
  {chunk : Chunk}

theorem new (supply : ChunkSupply) : Balanced supply (.new supply) [] where
  source := rfl
  places := List.Perm.refl _
  systemAllocations := rfl
  systemBytes := rfl
  released := rfl

theorem nodup (balanced : Balanced supply cache outside) : (cache.free ++ outside).Nodup :=
  balanced.places.nodup_iff.mpr (supply.nodup_granted _)

/-- The chunks outside are told in any order. -/
theorem perm (balanced : Balanced supply cache outside) (order : outside.Perm kept) :
    Balanced supply cache kept :=
  { balanced with places := (order.append_left _).symm.trans balanced.places }

/-- The bytes in the chunks are not in the balance. -/
theorem memory (balanced : Balanced supply cache outside) (memory : Memory) :
    Balanced supply { cache with memory } outside :=
  ⟨balanced.source, balanced.places, balanced.systemAllocations, balanced.systemBytes,
    balanced.released⟩

/-- The next chunk of the cache goes outside. -/
theorem taken {rest : List Chunk} (balanced : Balanced supply cache outside)
    (free : cache.free = chunk :: rest) :
    Balanced supply { cache with free := rest, cacheHits := cache.cacheHits + 1 }
      (chunk :: outside) where
  source := balanced.source
  places := by
    refine List.perm_middle.trans ?_
    rw [← List.cons_append, ← free]
    exact balanced.places
  systemAllocations := balanced.systemAllocations
  systemBytes := balanced.systemBytes
  released := by
    have released := balanced.released
    rw [free, List.length_cons] at released
    show cache.released = cache.cacheHits + 1 + rest.length
    omega

/-- A chunk that is acquired goes outside. -/
theorem acquired (balanced : Balanced supply cache outside)
    (acquired : cache.acquire = (.ok chunk, after)) : Balanced supply after (chunk :: outside) := by
  have ends := cache.acquire_ends
  rw [acquired] at ends
  cases ends with
  | cached free => exact balanced.taken free
  | granted empty answered =>
    rw [balanced.source] at answered
    have places := balanced.places
    rw [empty, List.nil_append] at places
    refine ⟨balanced.source, ?_, ?_, ?_, balanced.released⟩
    · show (cache.free ++ _ :: outside).Perm (supply.granted (cache.requests + 1))
      rw [empty, List.nil_append, ChunkSupply.granted_answered answered,
        ← balanced.systemAllocations]
      exact (places.cons _).trans (List.perm_append_singleton _ _).symm
    · show cache.systemAllocations + 1 = (supply.granted (cache.requests + 1)).length
      rw [ChunkSupply.granted_answered answered, List.length_append, List.length_singleton,
        balanced.systemAllocations]
    · show cache.systemBytes + chunkSize = chunkSize * (cache.systemAllocations + 1)
      rw [balanced.systemBytes, Nat.mul_succ]

/-- A request for a chunk that is refused moves nothing. -/
theorem refused {error : AllocError} (balanced : Balanced supply cache outside)
    (refused : cache.acquire = (.error error, after)) : Balanced supply after outside := by
  have ends := cache.acquire_ends
  rw [refused] at ends
  cases ends with
  | refused empty answered =>
    rw [balanced.source] at answered
    have same := ChunkSupply.granted_refused answered
    refine ⟨balanced.source, ?_, ?_, balanced.systemBytes, balanced.released⟩
    · rw [same]
      exact balanced.places
    · rw [same]
      exact balanced.systemAllocations

/-- Chunks that are released go back to the cache. -/
theorem releaseAll (chunks : List Chunk) (balanced : Balanced supply cache outside)
    (parts : outside.Perm (chunks ++ kept)) : Balanced supply (cache.releaseAll chunks) kept where
  source := balanced.source
  places := by
    refine List.Perm.trans ?_ balanced.places
    refine List.Perm.trans ?_ (parts.append_left _).symm
    show (chunks.reverse ++ cache.free ++ kept).Perm (cache.free ++ (chunks ++ kept))
    rw [← List.append_assoc]
    refine List.Perm.append_right _ ?_
    exact List.perm_append_comm.trans ((List.reverse_perm chunks).append_left _)
  systemAllocations := balanced.systemAllocations
  systemBytes := balanced.systemBytes
  released := by
    show cache.released + chunks.length = cache.cacheHits + (chunks.reverse ++ cache.free).length
    rw [balanced.released, List.length_append, List.length_reverse]
    omega

/-- A chunk that is released goes back to the cache. -/
theorem release (balanced : Balanced supply cache outside) (parts : outside.Perm (chunk :: kept)) :
    Balanced supply (cache.release chunk) kept :=
  balanced.releaseAll [chunk] parts

/-- A request for bytes moves at most one chunk, from the cache or the system to the arena. -/
theorem reserved {arena grown : Arena} {layout : Layout} {answer : Except AllocError Region}
    (balanced : Balanced supply cache (arena.chunks ++ kept))
    (reserved : arena.reserve cache layout = (answer, grown, after)) :
    Balanced supply after (grown.chunks ++ kept) := by
  have ends := arena.reserve_ends cache layout
  rw [reserved] at ends
  cases ends with
  | oversized => exact balanced
  | inHead => exact balanced.memory _
  | inNew _ _ _ acquired => exact (balanced.acquired acquired).memory _
  | refused _ _ _ refused => exact balanced.refused refused

/-- The chunks that the counters hold to be in use are those outside the cache. -/
theorem outside_length (balanced : Balanced supply cache outside) :
    outside.length = cache.systemAllocations - cache.free.length ∧
      cache.free.length ≤ cache.systemAllocations := by
  have parts := balanced.places.length_eq
  rw [List.length_append, ← balanced.systemAllocations] at parts
  omega

end Balanced

end LiveReload
