/-
**The layout of an arena is its own.**

Where an arena places a region depends on how many chunks it has and how far the last of them is
filled, and on nothing else: not on the chunks themselves, so neither on what the cache holds nor on
anyone else who takes chunks from it. As long as the system refuses no chunk, an arena among others
therefore answers like one that has a cache for itself, and an arena that was freed like a new one.

* `Extent`, `Extent.place`: how far an arena is filled, and where the next region goes;
* `Arena.reserve_places`: every arena places regions by its extent;
* `ArenaView`, `Pool.view`: what can be seen of an arena without looking at addresses;
* `sinceFreed`: the requests to an arena since it was freed last;
* `Pool.view_eq`: the view of an arena, told from these requests alone;
* `Pool.serveAll_noninterfering`: the view of an arena in a pool is its view in a pool of its own.
-/
import LiveReload.Proofs.Memory.Isolation
import Mathlib.Data.List.DropRight

namespace LiveReload

/-! ### Places without addresses -/

/-- Where a region is in its arena; the first chunk of an arena has the ordinal zero. -/
structure Place where
  ordinal : Nat
  offset : Nat
  size : Nat
deriving DecidableEq, Repr

/-- How far an arena is filled: the number of its chunks, and the bytes used of the last one. -/
structure Extent where
  size : Nat
  cursor : Nat
deriving DecidableEq, Repr

namespace Extent

/-- The place of the next region. A request that is too large for every chunk changes nothing. -/
def place (extent : Extent) (layout : Layout) : Except AllocError Place × Extent :=
  let start := alignUp extent.cursor layout.align
  if chunkSize < layout.size ∨ chunkAlign < layout.align then
    (.error (.oversized layout.size layout.align chunkSize), extent)
  else if 0 < extent.size ∧ start + layout.size ≤ chunkSize then
    (.ok ⟨extent.size - 1, start, layout.size⟩, ⟨extent.size, start + layout.size⟩)
  else (.ok ⟨extent.size, 0, layout.size⟩, ⟨extent.size + 1, layout.size⟩)

/-- The places of regions that are asked for one after the other, from an empty arena on. -/
def places (layouts : List Layout) : List (Except AllocError Place) × Extent :=
  layouts.foldl
    (fun (answers, extent) layout =>
      (answers ++ [(extent.place layout).1], (extent.place layout).2))
    ([], ⟨0, 0⟩)

theorem places_concat (layouts : List Layout) (layout : Layout) :
    places (layouts ++ [layout]) =
      ((places layouts).1 ++ [((places layouts).2.place layout).1],
        ((places layouts).2.place layout).2) := by
  rw [places, List.foldl_append]
  rfl

end Extent

namespace Arena

def extent (arena : Arena) : Extent := ⟨arena.size, arena.cursor⟩

/-- The place of a region of the arena. -/
def placeOf (arena : Arena) (region : Region) : Option Place :=
  if region.chunk ∈ arena.chunks then
    some ⟨arena.chunks.reverse.idxOf region.chunk, region.offset, region.size⟩
  else none

theorem placeOf_head {head : Chunk} {rest : List Chunk} {cursor : Nat} (once : head ∉ rest)
    (offset size : Nat) :
    placeOf ⟨head :: rest, cursor⟩ ⟨head, offset, size⟩ = some ⟨rest.length, offset, size⟩ := by
  have ordinal : (head :: rest).reverse.idxOf head = rest.length := by
    rw [List.reverse_cons, List.idxOf_append_of_notMem (by simpa using once), List.idxOf_cons_self,
      List.length_reverse, Nat.add_zero]
  rw [placeOf, if_pos List.mem_cons_self, ordinal]

/-- A further chunk leaves the regions of the others in their places. -/
theorem placeOf_grown {chunks : List Chunk} {cursor more : Nat} {region : Region} (chunk : Chunk)
    (held : region.chunk ∈ chunks) :
    placeOf ⟨chunk :: chunks, more⟩ region = placeOf ⟨chunks, cursor⟩ region := by
  have ordinal : (chunk :: chunks).reverse.idxOf region.chunk =
      chunks.reverse.idxOf region.chunk := by
    rw [List.reverse_cons, List.idxOf_append_of_mem (by simpa using held)]
  rw [placeOf, if_pos (List.mem_cons_of_mem _ held), ordinal, placeOf, if_pos held]

/-- What an arena does to its regions when it grows. -/
structure Grows (arena grown : Arena) : Prop where
  chunks : arena.chunks ⊆ grown.chunks
  places : ∀ region, region.chunk ∈ arena.chunks → grown.placeOf region = arena.placeOf region

theorem Grows.refl (arena : Arena) : Grows arena arena :=
  ⟨List.Subset.refl _, fun _ _ => rfl⟩

/-- **An arena places regions by its extent**, as long as its chunks are different ones and it is
refused none. -/
theorem reserve_places {arena grown : Arena} {cache after : ChunkCache} {layout : Layout}
    {answer : Except AllocError Region} (once : arena.chunks.Nodup)
    (fresh : ∀ chunk rest, cache.acquire = (.ok chunk, rest) → chunk ∉ arena.chunks)
    (willing : ∀ error rest, cache.acquire ≠ (.error error, rest))
    (reserved : arena.reserve cache layout = (answer, grown, after)) :
    answer.map grown.placeOf = (arena.extent.place layout).1.map some ∧
      grown.extent = (arena.extent.place layout).2 ∧ Grows arena grown := by
  have ends := arena.reserve_ends cache layout
  rw [reserved] at ends
  cases ends with
  | oversized large =>
    rw [Extent.place, if_pos large]
    exact ⟨rfl, rfl, .refl _⟩
  | @inHead head rest size align owned fits =>
    have small : ¬ (chunkSize < layout.size ∨ chunkAlign < layout.align) := by omega
    have count : arena.size = rest.length + 1 := by rw [Arena.size, owned, List.length_cons]
    have room : 0 < arena.extent.size ∧
        alignUp arena.extent.cursor layout.align + layout.size ≤ chunkSize :=
      ⟨by rw [extent, count]; exact Nat.succ_pos _, fits⟩
    have outside : head ∉ rest := (List.nodup_cons.mp (owned ▸ once)).1
    rw [Extent.place, if_neg small, if_pos room]
    refine ⟨?_, rfl, List.Subset.refl _, fun _ _ => rfl⟩
    show Except.ok (placeOf ⟨arena.chunks, _⟩ _) = Except.ok (some _)
    rw [owned, placeOf_head outside, extent, count]
    rfl
  | @inNew chunk rest size align full acquired =>
    have small : ¬ (chunkSize < layout.size ∨ chunkAlign < layout.align) := by omega
    have cramped : ¬ (0 < arena.extent.size ∧
        alignUp arena.extent.cursor layout.align + layout.size ≤ chunkSize) := by
      rintro ⟨some, fits⟩
      rcases full with empty | full
      · simp [extent, Arena.size, empty] at some
      · exact absurd fits (Nat.not_le_of_lt full)
    rw [Extent.place, if_neg small, if_neg cramped]
    refine ⟨?_, ?_, List.subset_cons_self _ _, fun region held => placeOf_grown chunk held⟩
    · show Except.ok (placeOf ⟨chunk :: arena.chunks, _⟩ _) = Except.ok (some _)
      rw [placeOf_head (fresh chunk rest acquired)]
      rfl
    · show Extent.mk _ (0 + layout.size) = _
      rw [Nat.zero_add]
      rfl
  | refused size align full acquired => exact absurd acquired (willing _ _)

end Arena

/-! ### What is seen of an arena -/

namespace PoolRequest

/-- What a request asks of an arena, if it asks it for bytes. -/
def layoutFor? (name : String) : PoolRequest → Option Layout
  | allocate arena layout => if arena = name then some layout else none
  | store arena layout _ => if arena = name then some layout else none
  | _ => none

/-- The request frees an arena. -/
def frees (name : String) : PoolRequest → Bool
  | free arena => arena = name
  | _ => false

end PoolRequest

/-- Of items with a request each, those that ask an arena for bytes since it was freed last. -/
def sinceFreed {α : Type} (name : String) (request : α → PoolRequest) (items : List α) : List α :=
  (items.rtakeWhile fun item => !(request item).frees name).filter fun item =>
    ((request item).layoutFor? name).isSome

/-- What can be seen of an arena without looking at addresses: its answers since it was freed last,
with the place of every region, and how far it is filled. -/
structure ArenaView where
  answers : List (Except AllocError (Option Place))
  extent : Extent

/-- An answer of an arena as it is seen. -/
def Arena.sees (arena : Arena) : PoolReply → Except AllocError (Option Place)
  | .region region => .ok (arena.placeOf region)
  | .refused error => .error error
  | _ => .ok none

/-- What is seen of an arena of a pool after requests. -/
def Pool.view (pool : Pool) (requests : List PoolRequest) (name : String) : ArenaView :=
  let arena := (pool.serveAll requests).arena name
  { answers :=
      (sinceFreed name Prod.fst (pool.exchanges requests)).map fun exchange => arena.sees exchange.2
    extent := arena.extent }

section SinceFreed

variable {α : Type} {name : String}

theorem sinceFreed_freed (request : α → PoolRequest) (items : List α) {item : α}
    (freed : (request item).frees name = true) :
    sinceFreed name request (items ++ [item]) = [] := by
  rw [sinceFreed, List.rtakeWhile_concat_neg _ _ _ (by simpa using freed), List.filter_nil]

theorem sinceFreed_unfreed (request : α → PoolRequest) (items : List α) {item : α}
    (kept : (request item).frees name = false) :
    sinceFreed name request (items ++ [item]) =
      sinceFreed name request items ++
        if ((request item).layoutFor? name).isSome then [item] else [] := by
  rw [sinceFreed, List.rtakeWhile_concat_pos _ _ _ (by simpa using kept), List.filter_append]
  congr 1
  by_cases asks : ((request item).layoutFor? name).isSome = true <;> simp [asks]

/-- What an arena was asked for since it was freed last is all that counts for it. -/
theorem sinceFreed_idem (request : α → PoolRequest) (items : List α) :
    sinceFreed name request (sinceFreed name request items) = sinceFreed name request items := by
  have own : ∀ item ∈ sinceFreed name request items,
      (request item).frees name = false ∧ ((request item).layoutFor? name).isSome = true := by
    intro item member
    obtain ⟨late, asks⟩ := List.mem_filter.mp member
    exact ⟨by simpa using List.mem_rtakeWhile_imp late, asks⟩
  generalize sinceFreed name request items = items at own
  rw [sinceFreed, List.rtakeWhile_eq_self_iff.mpr fun item member => by simp [own item member],
    List.filter_eq_self]
  exact fun item member => (own item member).2

end SinceFreed

/-! ### The view by the extent -/

namespace Pool

theorem exchanges_append (pool : Pool) (requests more : List PoolRequest) :
    pool.exchanges (requests ++ more) =
      pool.exchanges requests ++ (pool.serveAll requests).exchanges more := by
  induction requests generalizing pool with
  | nil => rfl
  | cons request rest ih =>
    rw [List.cons_append, exchanges, ih, exchanges, List.cons_append]
    rfl

theorem serveAll_concat (pool : Pool) (requests : List PoolRequest) (request : PoolRequest) :
    pool.serveAll (requests ++ [request]) = ((pool.serveAll requests).serve request).2 := by
  rw [serveAll, List.foldl_append]
  rfl

variable {supply : ChunkSupply} {pool : Pool} {name : String}

/-- The chunks of an arena are different ones. -/
theorem Conserved.nodup_chunks (conserved : Conserved supply pool) (name : String) :
    (pool.arena name).chunks.Nodup := by
  obtain ⟨others, parts, _⟩ := owned_put name pool.arenas
  have once : pool.owned.Nodup := conserved.balanced.nodup.of_append_right.of_append_left
  exact (parts.nodup_iff.mp once).of_append_left

/-- A system that never refuses lets the cache refuse nothing. -/
theorem Conserved.acquire_ne (conserved : Conserved supply pool)
    (willing : ∀ request, supply.base request ≠ none) (error : AllocError) (rest : ChunkCache) :
    pool.cache.acquire ≠ (.error error, rest) := by
  intro acquired
  have ends := pool.cache.acquire_ends
  rw [acquired] at ends
  cases ends with
  | refused empty refused =>
    rw [conserved.balanced.source] at refused
    exact willing _ refused

/-- The reply to a request for bytes. -/
def replyOf : Except AllocError Region → PoolReply
  | .ok region => .region region
  | .error error => .refused error

/-- What a request to a pool is to one of its arenas. -/
inductive Turn (name : String) (arena : Arena) (cache : ChunkCache) :
    PoolRequest → PoolReply → Arena → Prop
  | asked {request : PoolRequest} {layout : Layout} {answer : Except AllocError Region}
      {grown : Arena} {after : ChunkCache} (kept : request.frees name = false)
      (asks : request.layoutFor? name = some layout)
      (reserved : arena.reserve cache layout = (answer, grown, after)) :
    Turn name arena cache request (replyOf answer) grown
  | freed {request : PoolRequest} {reply : PoolReply} (freed : request.frees name = true) :
    Turn name arena cache request reply .empty
  /-- The request is about something else. -/
  | passed {request : PoolRequest} {reply : PoolReply} (kept : request.frees name = false)
      (quiet : request.layoutFor? name = none) :
    Turn name arena cache request reply arena

/-- A request for bytes is a turn of the arena that it names. -/
theorem turn_asked {owner : String} {layout : Layout} {answer : Except AllocError Region}
    {grown : Arena} {after : ChunkCache} {request : PoolRequest}
    (asks : request = .allocate owner layout ∨ ∃ data, request = .store owner layout data)
    (reserved : (pool.arena owner).reserve pool.cache layout = (answer, grown, after)) :
    Turn name (pool.arena name) pool.cache request (replyOf answer)
      (Function.update pool.arena owner grown name) := by
  have kept : request.frees name = false := by rcases asks with rfl | ⟨_, rfl⟩ <;> rfl
  have layouts : request.layoutFor? name = if owner = name then some layout else none := by
    rcases asks with rfl | ⟨_, rfl⟩ <;> rfl
  by_cases same : owner = name
  · subst same
    rw [Function.update_self]
    exact .asked kept (by rw [layouts, if_pos rfl]) reserved
  · rw [Function.update_of_ne (Ne.symm same)]
    exact .passed kept (by rw [layouts, if_neg same])

theorem serve_turn (pool : Pool) (request : PoolRequest) (name : String) :
    Turn name (pool.arena name) pool.cache request (pool.serve request).1
      ((pool.serve request).2.arena name) := by
  have ends := pool.serve_ends request
  generalize pool.serve request = served at ends ⊢
  cases ends with
  | granted reserved =>
    rw [arena_put]
    exact turn_asked (.inl rfl) reserved
  | stored reserved =>
    rw [arena_put]
    exact turn_asked (.inr ⟨_, rfl⟩) reserved
  | @refused _ owner layout error arena cache asks reserved =>
    rw [arena_put pool owner arena cache pool.live]
    exact turn_asked asks reserved
  | freed owner =>
    rw [arena_put]
    by_cases same : owner = name
    · subst same
      rw [Function.update_self]
      exact .freed (decide_eq_true rfl)
    · rw [Function.update_of_ne (Ne.symm same)]
      exact .passed (decide_eq_false same) rfl
  | given asks => rcases asks with ⟨rfl, _⟩ | ⟨rfl, _⟩ <;> exact .passed rfl rfl
  | withheld => exact .passed rfl rfl
  | nothing => exact .passed rfl rfl
  | returned chunks asks => rcases asks with ⟨_, rfl⟩ | ⟨_, rfl⟩ <;> exact .passed rfl rfl

/-- The layouts that an arena was asked for since it was freed last. -/
def layoutsOf (name : String) (requests : List PoolRequest) : List Layout :=
  (sinceFreed name id requests).filterMap fun request => request.layoutFor? name

/-- The answers of an arena and how far it is filled are what its extent makes of layouts. -/
structure Mirrors (arena : Arena) (replies : List PoolReply) (layouts : List Layout) : Prop where
  answers : replies.map arena.sees = (Extent.places layouts).1.map (Except.map some)
  extent : arena.extent = (Extent.places layouts).2
  regions : ∀ region, .region region ∈ replies → region.chunk ∈ arena.chunks

theorem Mirrors.empty : Mirrors .empty [] [] := ⟨rfl, rfl, by simp⟩

/-- An arena that grows is seen as before. -/
theorem sees_grown {arena grown : Arena} (grows : arena.Grows grown) {reply : PoolReply}
    (held : ∀ region, reply = .region region → region.chunk ∈ arena.chunks) :
    grown.sees reply = arena.sees reply := by
  cases reply with
  | region region => exact congrArg Except.ok (grows.places region (held region rfl))
  | _ => rfl

theorem sees_replyOf (arena : Arena) (answer : Except AllocError Region) :
    arena.sees (replyOf answer) = answer.map arena.placeOf := by
  cases answer <;> rfl

/-- One more answer is what the extent makes of one more layout. -/
theorem Mirrors.asked {arena grown : Arena} {cache after : ChunkCache} {layout : Layout}
    {answer : Except AllocError Region} {replies : List PoolReply} {layouts : List Layout}
    (mirrors : Mirrors arena replies layouts) (once : arena.chunks.Nodup)
    (fresh : ∀ chunk rest, cache.acquire = (.ok chunk, rest) → chunk ∉ arena.chunks)
    (willing : ∀ error rest, cache.acquire ≠ (.error error, rest))
    (reserved : arena.reserve cache layout = (answer, grown, after)) :
    Mirrors grown (replies ++ [replyOf answer]) (layouts ++ [layout]) := by
  obtain ⟨placed, extent, grows⟩ := Arena.reserve_places once fresh willing reserved
  rw [mirrors.extent] at placed extent
  -- The regions that were granted before keep their ordinals, since chunks are added at the head.
  have before : replies.map grown.sees = replies.map arena.sees := by
    refine List.map_congr_left fun reply member => sees_grown grows ?_
    rintro region rfl
    exact mirrors.regions region member
  refine ⟨?_, ?_, ?_⟩
  · rw [Extent.places_concat, List.map_append, List.map_append, before, mirrors.answers,
      List.map_singleton, List.map_singleton, sees_replyOf, placed]
  · rw [Extent.places_concat, extent]
  · intro region member
    rcases List.mem_append.mp member with early | last
    · exact grows.chunks (mirrors.regions region early)
    · -- A region that has a place lies in a chunk of the arena.
      by_contra outside
      cases answer with
      | error error => simp [replyOf] at last
      | ok granted =>
        obtain rfl : region = granted := by simpa [replyOf] using last
        cases place : ((Extent.places layouts).2.place layout).1 <;>
          simp [place, Except.map, Arena.placeOf, outside] at placed

/-- **An arena of a pool is seen as its extent tells**, from the layouts that it was asked for since
it was freed last. -/
theorem serveAll_mirrors (willing : ∀ request, supply.base request ≠ none)
    (requests : List PoolRequest) (name : String) :
    Mirrors (((new supply).serveAll requests).arena name)
      ((sinceFreed name Prod.fst ((new supply).exchanges requests)).map Prod.snd)
      (layoutsOf name requests) := by
  -- The last request comes first: what an arena was asked for since it was freed is read backwards.
  induction requests using List.reverseRecOn with
  | nil => exact .empty
  | append_singleton requests request ih =>
    have conserved : Conserved supply ((new supply).serveAll requests) :=
      serveAll_conserved (.new supply) requests
    have turn := ((new supply).serveAll requests).serve_turn request name
    rw [serveAll_concat, exchanges_append, exchanges, exchanges, layoutsOf]
    generalize ((new supply).serveAll requests).serve request = served at turn ⊢
    generalize served.1 = reply, served.2.arena name = arena at turn ⊢
    cases turn with
    | freed freed =>
      rw [sinceFreed_freed Prod.fst _ freed, sinceFreed_freed id _ freed]
      exact .empty
    | passed kept quiet =>
      rw [sinceFreed_unfreed Prod.fst _ kept, sinceFreed_unfreed id _ kept]
      simpa [layoutsOf, quiet] using ih
    | asked kept asks reserved =>
      rw [sinceFreed_unfreed Prod.fst _ kept, sinceFreed_unfreed id _ kept, List.map_append,
        List.filterMap_append]
      simpa [layoutsOf, asks] using ih.asked (conserved.nodup_chunks name)
        (fun _ _ acquired => conserved.not_owned_of_acquire acquired name)
        (conserved.acquire_ne willing) reserved

theorem view_eq (willing : ∀ request, supply.base request ≠ none) (requests : List PoolRequest)
    (name : String) :
    (new supply).view requests name =
      ⟨(Extent.places (layoutsOf name requests)).1.map (Except.map some),
        (Extent.places (layoutsOf name requests)).2⟩ := by
  have mirrors := serveAll_mirrors willing requests name
  rw [view, ← mirrors.answers, ← mirrors.extent, List.map_map]
  rfl

/-- **Arenas do not interfere.** Whatever arenas and holders asked of a pool whose system never
refuses a chunk: the answers of an arena since it was freed last, the place of every region in it,
its number of chunks and its cursor are those of the arena of an unused pool that is given nothing
but the requests to this arena since it was freed last. Every region has a place. -/
theorem serveAll_noninterfering (supply other : ChunkSupply)
    (willing : ∀ request, supply.base request ≠ none)
    (equally : ∀ request, other.base request ≠ none) (requests : List PoolRequest)
    (name : String) :
    (new supply).view requests name = (new other).view (sinceFreed name id requests) name ∧
      .ok none ∉ ((new supply).view requests name).answers := by
  have own : layoutsOf name (sinceFreed name id requests) = layoutsOf name requests := by
    rw [layoutsOf, sinceFreed_idem, layoutsOf]
  refine ⟨?_, ?_⟩
  · rw [view_eq willing, view_eq equally, own]
  · rw [view_eq willing]
    simp only [List.mem_map, not_exists, not_and]
    rintro (error | place) _ equal <;> cases equal

/-- An arena that was freed and shares the cache with another arena and a holder. -/
theorem serveAll_noninterfering_shared :
    let requests : List PoolRequest :=
      [.allocate "scene" ⟨chunkSize, 1, ⟨0, rfl⟩, by decide⟩,
        .allocate "scene" ⟨100, 64, ⟨6, rfl⟩, by decide⟩, .free "scene", .take "host",
        .store "sound" ⟨3, 1, ⟨0, rfl⟩, by decide⟩ #[7, 8, 9],
        .allocate "scene" ⟨24, 8, ⟨3, rfl⟩, by decide⟩, .release "host",
        .allocate "scene" ⟨chunkSize, 4096, ⟨12, rfl⟩, by decide⟩]
    (∀ request, ChunkSupply.spaced.base request ≠ none) ∧
      (new .spaced).view requests "scene" =
        (new .spaced).view (sinceFreed "scene" id requests) "scene" ∧
      ((new .spaced).view requests "scene").extent = ⟨2, chunkSize⟩ := by
  intro requests
  have willing : ∀ request, ChunkSupply.spaced.base request ≠ none := nofun
  exact ⟨willing, (serveAll_noninterfering .spaced .spaced willing willing requests "scene").1,
    by decide⟩

end Pool

end LiveReload
