/-
**What regions hold.**

A chunk that was used before holds what its last owner left there. A region is zeroed when it is
reserved; from then on its bytes are what was last written through it, whatever happens in the
arenas and the cache around it, until its arena is freed.

* `MemoryStep`, `Pool.performAll`: requests and writes through regions, in any order;
* `Holding`, `holdingsInUse`: the regions in use, with the bytes that were last written through
  each, told from the steps and the replies;
* `Filled`: the memory agrees with these (`perform_filled`);
* `Pool.performAll_preserves`: zeroed regions, values that read back, and bytes that stay.
-/
import LiveReload.Memory.Stored
import LiveReload.Proofs.Memory.Isolation
import Mathlib.Data.List.Pairwise

namespace LiveReload

/-! ### Reading what was written -/

/-- Bytes of which those from `offset` on are replaced. -/
def overwrite (bytes : List UInt8) (offset : Nat) (data : List UInt8) : List UInt8 :=
  bytes.take offset ++ data ++ bytes.drop (offset + data.length)

namespace Memory

variable {memory : Memory} {start size : Nat}

@[simp] theorem length_read (memory : Memory) (start size : Nat) :
    (memory.read start size).length = size := by
  simp [read]

/-- What is read depends on the bytes that are read and on no others. -/
theorem read_congr {changed : Memory}
    (same : ∀ address, start ≤ address → address < start + size →
      changed.byte address = memory.byte address) :
    changed.read start size = memory.read start size := by
  apply List.map_congr_left
  intro offset inside
  exact same _ (Nat.le_add_right _ _) (Nat.add_lt_add_left (List.mem_range.mp inside) _)

theorem read_fill_of_apart {other span : Nat} (value : UInt8)
    (apart : Apart start size other span) :
    (memory.fill other span value).read start size = memory.read start size := by
  refine read_congr fun address first last => ?_
  unfold Apart at apart
  rw [byte_fill, if_neg (by omega)]

theorem read_write_of_apart {other : Nat} {data : Array UInt8}
    (apart : Apart start size other data.size) :
    (memory.write other data).read start size = memory.read start size := by
  refine read_congr fun address first last => ?_
  unfold Apart at apart
  rw [byte_write]
  split
  · rw [Array.getElem?_eq_none (by omega), Option.getD_none]
  · rfl

theorem read_add (memory : Memory) (start size more : Nat) :
    memory.read start (size + more) =
      memory.read start size ++ memory.read (start + size) more := by
  unfold read
  rw [List.range_add, List.map_append, List.map_map]
  congr 1
  apply List.map_congr_left
  intro offset _
  rw [Function.comp_apply, Nat.add_assoc]

/-- Data written inside a stretch replace the bytes there and leave those around them. -/
theorem read_write_inside {offset : Nat} {data : Array UInt8} (inside : offset + data.size ≤ size) :
    (memory.write (start + offset) data).read start size =
      overwrite (memory.read start size) offset data.toList := by
  obtain ⟨rest, rfl⟩ := Nat.exists_eq_add_of_le inside
  have before : (memory.write (start + offset) data).read start offset =
      memory.read start offset := read_write_of_apart (.inl (Nat.le_refl _))
  have behind : (memory.write (start + offset) data).read (start + (offset + data.size)) rest =
      memory.read (start + (offset + data.size)) rest :=
    read_write_of_apart (.inr (by omega))
  unfold overwrite
  rw [read_add, read_add, before, behind, read_write, read_add _ start (offset + data.size),
    Array.length_toList]
  congr 1
  · rw [read_add, List.append_assoc, List.take_left' (length_read _ _ _)]
  · rw [List.drop_left' (length_read _ _ _)]

end Memory

/-! ### Memory after a request -/

theorem ChunkCache.memory_of_acquire {cache after : ChunkCache} {answer : Except AllocError Chunk}
    (acquired : cache.acquire = (answer, after)) : after.memory = cache.memory := by
  have ends := cache.acquire_ends
  rw [acquired] at ends
  cases ends <;> rfl

namespace Arena

variable {arena grown : Arena} {cache after : ChunkCache} {layout : Layout}

/-- A region that is reserved is zeroed, and no other byte changes. -/
theorem memory_of_reserve {region : Region}
    (reserved : arena.reserve cache layout = (.ok region, grown, after)) :
    region.size = layout.size ∧
      after.memory = cache.memory.fill region.address region.size 0 := by
  have ends := arena.reserve_ends cache layout
  rw [reserved] at ends
  cases ends with
  | inHead => exact ⟨rfl, rfl⟩
  | inNew size align full acquired =>
    have same := ChunkCache.memory_of_acquire acquired
    refine ⟨rfl, ?_⟩
    show Memory.fill _ _ _ _ = _
    rw [same]
    rfl

theorem memory_of_refusal {error : AllocError}
    (refused : arena.reserve cache layout = (.error error, grown, after)) :
    after.memory = cache.memory := by
  rw [(unchanged_of_refused refused).2]

end Arena

/-! ### Requests and writes in any order -/

/-- A request that stores data reserves exactly their bytes. -/
def PoolRequest.Exact : PoolRequest → Prop
  | .store _ layout data => data.size = layout.size
  | _ => True

/-- What is done with the memory of a pool. -/
inductive MemoryStep
  | serve (request : PoolRequest) (exact : request.Exact)
  /-- Data are written through a region, from its byte `offset` on. -/
  | write (region : Region) (offset : Nat) (data : Array UInt8)

/-- A region in use, with the bytes that were last written through it. -/
structure Holding where
  grant : Grant String
  bytes : List UInt8

namespace Holding

/-- The holding after a write, which changes it if it was through its region. -/
def rewritten (region : Region) (offset : Nat) (data : Array UInt8) (holding : Holding) : Holding :=
  if holding.grant.region = region ∧ offset + data.size ≤ region.size then
    { holding with bytes := overwrite holding.bytes offset data.toList }
  else holding

@[simp] theorem rewritten_grant (region : Region) (offset : Nat) (data : Array UInt8)
    (holding : Holding) : (holding.rewritten region offset data).grant = holding.grant := by
  unfold rewritten
  split <;> rfl

/-- The name of the arena and the region. -/
def entry (holding : Holding) : String × Region := (holding.grant.owner, holding.grant.region)

end Holding

/-- The regions in use, with what they hold, after one more step was answered. -/
def holdingsAfter (holdings : List Holding) : MemoryStep × PoolReply → List Holding
  | (.serve (.allocate name layout) _, .region region) =>
    ⟨⟨name, layout, region⟩, List.replicate layout.size 0⟩ :: holdings
  | (.serve (.store name layout data) _, .region region) =>
    ⟨⟨name, layout, region⟩, data.toList⟩ :: holdings
  | (.serve (.free name) _, _) => holdings.filter fun holding => holding.grant.owner ≠ name
  | (.write region offset data, _) => holdings.map (Holding.rewritten region offset data)
  | _ => holdings

/-- The regions in use, with what they hold, after steps were answered; the last one first. -/
def holdingsInUse (exchanges : List (MemoryStep × PoolReply)) : List Holding :=
  exchanges.foldl holdingsAfter []

/-- The step writes through a region or frees its arena. -/
def MemoryStep.Touches (grant : Grant String) : MemoryStep → Prop
  | .serve (.free name) _ => name = grant.owner
  | .write region _ _ => region = grant.region
  | _ => False

/-- A step that does not touch a region leaves what it holds. -/
theorem mem_holdingsAfter {holdings : List Holding} {holding : Holding}
    (member : holding ∈ holdings) {step : MemoryStep} (away : ¬ step.Touches holding.grant)
    (reply : PoolReply) : holding ∈ holdingsAfter holdings (step, reply) := by
  unfold holdingsAfter
  split
  · exact List.mem_cons_of_mem _ member
  · exact List.mem_cons_of_mem _ member
  · next name _ _ heq =>
    obtain ⟨rfl, rfl⟩ := Prod.mk.inj heq
    exact List.mem_filter.mpr ⟨member, decide_eq_true (Ne.symm away)⟩
  · next region offset data _ heq =>
    obtain ⟨rfl, rfl⟩ := Prod.mk.inj heq
    refine List.mem_map.mpr ⟨holding, member, ?_⟩
    exact if_neg fun written => away written.1.symm
  · exact member

namespace Pool

/-- Performs a step; a write that does not stay inside a region in use is not done. -/
def perform (pool : Pool) : MemoryStep → PoolReply × Pool
  | .serve request _ => pool.serve request
  | .write region offset data =>
    (.done,
      if region ∈ pool.live.map Prod.snd ∧ offset + data.size ≤ region.size then
        pool.write region offset data
      else pool)

/-- Performs steps in order. -/
def performAll (pool : Pool) (steps : List MemoryStep) : Pool :=
  steps.foldl (fun pool step => (pool.perform step).2) pool

/-- Steps with what they are answered. -/
def replies (pool : Pool) : List MemoryStep → List (MemoryStep × PoolReply)
  | [] => []
  | step :: rest => (step, (pool.perform step).1) :: (pool.perform step).2.replies rest

variable {supply : ChunkSupply} {pool : Pool} {holdings : List Holding}

/-! ### What every step keeps -/

/-- Bytes are in no other part of the invariant. -/
theorem Isolated.memory {grants : List (Grant String)} (isolated : Isolated supply pool grants)
    (memory : Memory) :
    Isolated supply { pool with cache := { pool.cache with memory } } grants :=
  ⟨⟨isolated.conserved.balanced.memory memory, isolated.conserved.names⟩, isolated.placed,
    isolated.live⟩

section Separation

variable {grants : List (Grant String)}

/-- Regions in use are apart, any two of them. -/
theorem Isolated.pairwise_apart (isolated : Isolated supply pool grants) (sound : supply.Sound) :
    grants.Pairwise fun later earlier =>
      Apart later.region.address later.region.size earlier.region.address earlier.region.size :=
  isolated.placed.behind.imp_of_mem fun member another behind =>
    isolated.regions_apart sound member another behind

/-- Two regions in use that are not the same one are apart. -/
theorem Isolated.apart_of_ne {grant other : Grant String} (isolated : Isolated supply pool grants)
    (sound : supply.Sound) (member : grant ∈ grants) (another : other ∈ grants)
    (different : grant.region ≠ other.region) :
    Apart grant.region.address grant.region.size other.region.address other.region.size := by
  let apart (one two : Grant String) : Prop :=
    Apart one.region.address one.region.size two.region.address two.region.size
  have symmetric : Std.Symm apart := ⟨fun _ _ => Apart.symm⟩
  have pairwise : grants.Pairwise apart := isolated.pairwise_apart sound
  exact pairwise.forall member another fun same => different (same ▸ rfl)

end Separation

/-- The regions in use are those that the replies tell, and each reads as what was last written
through it. -/
structure Filled (supply : ChunkSupply) (pool : Pool) (holdings : List Holding) : Prop where
  isolated : Isolated supply pool (holdings.map Holding.grant)
  bytes : ∀ holding ∈ holdings,
    pool.cache.memory.read holding.grant.region.address holding.grant.region.size = holding.bytes

theorem Filled.new (supply : ChunkSupply) : Filled supply (.new supply) [] where
  isolated := ⟨.new supply, .nothing _, rfl⟩
  bytes := by simp

/-- One more region in use: it is enough that no byte outside it changed. -/
theorem Filled.cons {after : Pool} {holding : Holding} (filled : Filled supply pool holdings)
    (sound : supply.Sound)
    (isolated : Isolated supply after ((holding :: holdings).map Holding.grant))
    (inside : after.cache.memory.read holding.grant.region.address holding.grant.region.size =
      holding.bytes)
    (outside : ∀ start size,
      Apart start size holding.grant.region.address holding.grant.region.size →
        after.cache.memory.read start size = pool.cache.memory.read start size) :
    Filled supply after (holding :: holdings) where
  isolated := isolated
  bytes := by
    rintro other (_ | ⟨_, member⟩)
    · exact inside
    · have behind := (List.pairwise_cons.mp isolated.placed.behind).1 other.grant
        (List.mem_map_of_mem member)
      have apart := isolated.regions_apart sound List.mem_cons_self
        (List.mem_cons_of_mem _ (List.mem_map_of_mem member)) behind
      rw [outside _ _ apart.symm, filled.bytes other member]

/-- A request that touches no byte keeps what is held by the regions that stay in use. -/
theorem Filled.of_same {after : Pool} {kept : List Holding} (filled : Filled supply pool holdings)
    (isolated : Isolated supply after (kept.map Holding.grant)) (subset : kept ⊆ holdings)
    (same : after.cache.memory = pool.cache.memory) : Filled supply after kept where
  isolated := isolated
  bytes := by
    intro holding member
    rw [same, filled.bytes holding (subset member)]

/-- A write through a region in use changes what that region holds, and nothing else. -/
theorem Filled.write {region : Region} {offset : Nat} {data : Array UInt8}
    (filled : Filled supply pool holdings) (sound : supply.Sound)
    (live : region ∈ pool.live.map Prod.snd) (inside : offset + data.size ≤ region.size) :
    Filled supply (pool.write region offset data)
      (holdings.map (Holding.rewritten region offset data)) where
  isolated := by
    have grants : (holdings.map (Holding.rewritten region offset data)).map Holding.grant =
        holdings.map Holding.grant := by
      rw [List.map_map]
      exact List.map_congr_left fun holding _ => holding.rewritten_grant region offset data
    rw [grants]
    exact filled.isolated.memory _
  bytes := by
    intro changed member
    obtain ⟨holding, before, rfl⟩ := List.mem_map.mp member
    rw [Holding.rewritten_grant]
    unfold Holding.rewritten
    by_cases same : holding.grant.region = region
    · rw [if_pos ⟨same, inside⟩]
      show (Memory.write _ _ _).read _ _ = _
      rw [← filled.bytes holding before, same]
      exact Memory.read_write_inside inside
    · rw [if_neg fun written => same written.1]
      rw [filled.isolated.live, List.map_map] at live
      obtain ⟨grant, granted, here⟩ := List.mem_map.mp live
      have apart := filled.isolated.apart_of_ne sound (List.mem_map_of_mem before) granted
        (fun equal => same (equal.trans here))
      have span : region.address + offset + data.size ≤ region.address + region.size := by omega
      rw [← filled.bytes holding before]
      refine Memory.read_write_of_apart ?_
      rw [show grant.region = region from here] at apart
      exact apart.inside (Nat.le_refl _) (Nat.le_refl _) (Nat.le_add_right _ _) span

/-- The memory after a request that reserved a region: zeros in the region, then what was stored. -/
theorem Filled.reserved {after : Pool} {name : String} {layout : Layout} {region : Region}
    {arena : Arena} {cache : ChunkCache} (filled : Filled supply pool holdings)
    (sound : supply.Sound)
    (reserved : (pool.arena name).reserve pool.cache layout = (.ok region, arena, cache))
    (isolated : Isolated supply after (⟨name, layout, region⟩ :: holdings.map Holding.grant))
    (memory : after.cache.memory = cache.memory) :
    Filled supply after
      (⟨⟨name, layout, region⟩, List.replicate layout.size 0⟩ :: holdings) := by
  obtain ⟨size, filled_zero⟩ := Arena.memory_of_reserve reserved
  refine filled.cons sound isolated ?_ ?_
  · rw [memory, filled_zero, size]
    exact Memory.read_fill _ _ _ _
  · intro start count apart
    rw [memory, filled_zero]
    exact Memory.read_fill_of_apart _ apart

theorem Filled.stored {after : Pool} {name : String} {layout : Layout} {region : Region}
    {arena : Arena} {cache : ChunkCache} {data : Array UInt8}
    (filled : Filled supply pool holdings) (sound : supply.Sound) (exact : data.size = layout.size)
    (reserved : (pool.arena name).reserve pool.cache layout = (.ok region, arena, cache))
    (isolated : Isolated supply after (⟨name, layout, region⟩ :: holdings.map Holding.grant))
    (memory : after.cache.memory = cache.memory.write region.address data) :
    Filled supply after (⟨⟨name, layout, region⟩, data.toList⟩ :: holdings) := by
  obtain ⟨size, filled_zero⟩ := Arena.memory_of_reserve reserved
  have whole : region.size = data.size := size.trans exact.symm
  refine filled.cons sound isolated ?_ ?_
  · rw [memory, whole]
    exact Memory.read_write _ _ _
  · intro start count apart
    rw [memory, Memory.read_write_of_apart (whole ▸ apart), filled_zero]
    exact Memory.read_fill_of_apart _ apart

theorem serve_filled (filled : Filled supply pool holdings) (sound : supply.Sound)
    (request : PoolRequest) (exact : request.Exact) :
    Filled supply (pool.serve request).2
      (holdingsAfter holdings (.serve request exact, (pool.serve request).1)) := by
  have isolated := serve_isolated filled.isolated request
  have ends := pool.serve_ends request
  generalize pool.serve request = served at ends isolated ⊢
  cases ends with
  | granted reserved => exact filled.reserved sound reserved isolated rfl
  | stored reserved => exact filled.stored sound exact reserved isolated rfl
  | refused asks reserved =>
    have same := Arena.memory_of_refusal reserved
    rcases asks with rfl | ⟨data, rfl⟩ <;>
      exact filled.of_same isolated (List.Subset.refl _) same
  | freed name =>
    have grants : (holdings.filter fun holding => holding.grant.owner ≠ name).map Holding.grant =
        (holdings.map Holding.grant).filter fun grant => grant.owner ≠ name := by
      rw [List.filter_map]
      rfl
    refine filled.of_same ?_ List.filter_sublist.subset rfl
    exact grants ▸ isolated
  | given asks =>
    rcases asks with ⟨rfl, acquired⟩ | ⟨rfl, taken⟩
    · exact filled.of_same isolated (List.Subset.refl _) (ChunkCache.memory_of_acquire acquired)
    · obtain ⟨rest, free, rfl⟩ := ChunkCache.take?_eq_some taken
      exact filled.of_same isolated (List.Subset.refl _) rfl
  | withheld acquired =>
    exact filled.of_same isolated (List.Subset.refl _) (ChunkCache.memory_of_acquire acquired)
  | nothing => exact filled
  | returned chunks asks =>
    rcases asks with ⟨_, rfl⟩ | ⟨_, rfl⟩ <;>
      exact filled.of_same isolated (List.Subset.refl _) rfl

theorem perform_filled (filled : Filled supply pool holdings) (sound : supply.Sound)
    (step : MemoryStep) :
    Filled supply (pool.perform step).2 (holdingsAfter holdings (step, (pool.perform step).1)) := by
  cases step with
  | serve request exact => exact serve_filled filled sound request exact
  | write region offset data =>
    show Filled supply (if _ then _ else _) (holdings.map (Holding.rewritten region offset data))
    by_cases done : region ∈ pool.live.map Prod.snd ∧ offset + data.size ≤ region.size
    · rw [if_pos done]
      exact filled.write sound done.1 done.2
    · -- The write is not done: its region is not in use, or the data do not fit.
      have unchanged : holdings.map (Holding.rewritten region offset data) = holdings := by
        refine (List.map_congr_left fun holding member => if_neg ?_).trans (List.map_id _)
        rintro ⟨rfl, inside⟩
        refine done ⟨?_, inside⟩
        rw [filled.isolated.live, List.map_map, List.map_map]
        exact List.mem_map_of_mem member
      rw [if_neg done, unchanged]
      exact filled

theorem performAll_filled (filled : Filled supply pool holdings) (sound : supply.Sound)
    (steps : List MemoryStep) :
    Filled supply (pool.performAll steps) ((pool.replies steps).foldl holdingsAfter holdings) := by
  induction steps generalizing pool holdings with
  | nil => exact filled
  | cons step rest ih => exact ih (perform_filled filled sound step)

/-- What a region holds stays over all steps that do not touch it. -/
theorem mem_holdings_of_away {holding : Holding} (member : holding ∈ holdings)
    {steps : List MemoryStep} (away : ∀ step ∈ steps, ¬ step.Touches holding.grant) :
    holding ∈ (pool.replies steps).foldl holdingsAfter holdings := by
  induction steps generalizing pool holdings with
  | nil => exact member
  | cons step rest ih =>
    have here := mem_holdingsAfter member (away step List.mem_cons_self) (pool.perform step).1
    exact ih here fun later still => away later (List.mem_cons_of_mem _ still)

/-! ### What reads back -/

/-- A region is reserved as zeros, whatever its chunk held before. -/
theorem read_allocated {name : String} {layout : Layout} {region : Region} {after : Pool}
    (served : pool.serve (.allocate name layout) = (.region region, after)) :
    region.size = layout.size ∧
      after.cache.memory.read region.address region.size = List.replicate layout.size 0 := by
  have ends := pool.serve_ends (.allocate name layout)
  rw [served] at ends
  cases ends with
  | granted reserved =>
    obtain ⟨size, zeroed⟩ := Arena.memory_of_reserve reserved
    refine ⟨size, ?_⟩
    rw [zeroed, size]
    exact Memory.read_fill _ _ _ _

/-- A value that is stored reads back. -/
theorem read_stored {name : String} {stored : Stored} {layout : Layout} {region : Region}
    {after : Pool} (fits : stored.layout? = some layout)
    (served : pool.serve (.store name layout stored.bytes.toArray) = (.region region, after)) :
    after.cache.memory.read region.address region.size = stored.bytes := by
  have ends := pool.serve_ends (.store name layout stored.bytes.toArray)
  rw [served] at ends
  cases ends with
  | stored reserved =>
    have size : region.size = stored.bytes.toArray.size :=
      (Arena.memory_of_reserve reserved).1.trans (Layout.size_of_of? fits)
    rw [size]
    exact Memory.read_write _ _ _

/-- **Memory keeps what was written to it.** If the chunks of the system are aligned and apart, then
after any requests and writes through regions in use: every region in use reads as what was last
written through it, and goes on to until a step writes through it or frees its arena; a region that
is reserved next reads as zeros, also in a chunk that was used before; and a value, numbers or a
text that is stored next reads back. -/
theorem performAll_preserves (supply : ChunkSupply) (sound : supply.Sound)
    (steps : List MemoryStep) :
    let pool := (new supply).performAll steps
    let holdings := holdingsInUse ((new supply).replies steps)
    pool.live = holdings.map Holding.entry ∧
      (∀ holding ∈ holdings,
        let start := holding.grant.region.address
        let size := holding.grant.region.size
        pool.cache.memory.read start size = holding.bytes ∧
          ∀ more, (∀ step ∈ more, ¬ step.Touches holding.grant) →
            (pool.performAll more).cache.memory.read start size = holding.bytes) ∧
      (∀ name layout region after, pool.serve (.allocate name layout) = (.region region, after) →
        region.size = layout.size ∧
          after.cache.memory.read region.address region.size = List.replicate layout.size 0) ∧
      ∀ name (stored : Stored) layout region after, stored.layout? = some layout →
        pool.serve (.store name layout stored.bytes.toArray) = (.region region, after) →
        let back := after.cache.memory.read region.address region.size
        back = stored.bytes ∧
          (∀ text, stored = .text text → back = text.toUTF8.data.toList) ∧
          ∀ width values, 0 < width → stored = .numbers width values →
            Stored.numbersIn width back = values.map (· % 256 ^ width) := by
  intro pool holdings
  have filled : Filled supply pool holdings := performAll_filled (.new supply) sound steps
  refine ⟨?_, ?_, ?_, ?_⟩
  · rw [filled.isolated.live, List.map_map]
    rfl
  · intro holding member start size
    refine ⟨filled.bytes holding member, fun more away => ?_⟩
    exact (performAll_filled filled sound more).bytes holding (mem_holdings_of_away member away)
  · exact fun name layout region after served => read_allocated served
  · intro name stored layout region after fits served back
    have whole : back = stored.bytes := read_stored fits served
    refine ⟨whole, ?_, ?_⟩
    · rintro text rfl
      exact whole
    · rintro width values positive rfl
      rw [whole]
      exact Stored.numbersIn_numbers positive values

/-- A chunk that held data comes back to another arena as zeros, and stays as written there while
the first arena stores again. -/
theorem performAll_preserves_recycled :
    let first : MemoryStep := .serve (.store "scene" ⟨3, 1, ⟨0, rfl⟩, by decide⟩ #[7, 8, 9]) rfl
    let region : Region := ⟨⟨0, chunkSize⟩, 0, 4⟩
    let steps : List MemoryStep :=
      [first, .serve (.free "scene") trivial,
        .serve (.allocate "sound" ⟨4, 4, ⟨2, rfl⟩, by decide⟩) trivial,
        .write region 1 #[5, 6], first]
    ChunkSupply.spaced.Sound ∧
      ((new .spaced).performAll steps).cache.memory.read region.address region.size =
        [0, 5, 6, 0] := by
  intro first region steps
  refine ⟨ChunkSupply.spaced_sound, ?_⟩
  obtain ⟨_, contents, _⟩ := performAll_preserves .spaced ChunkSupply.spaced_sound steps
  let held : Holding := ⟨⟨"sound", ⟨4, 4, ⟨2, rfl⟩, by decide⟩, region⟩, [0, 5, 6, 0]⟩
  have second : held ∈ holdingsInUse ((new .spaced).replies steps) :=
    List.mem_cons_of_mem _ List.mem_cons_self
  exact (contents held second).1

end Pool

end LiveReload
