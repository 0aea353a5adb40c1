/-
**Resident memory is the high-water mark.**

A chunk that came from the system never goes back, and the system is asked for another only when
none waits in the cache. So the number of chunks that were granted is the most that were ever
outside the cache at once, over all moments of a history: for a pool the moments after each request,
for a context those after each step, with the steps of an initializer one by one.

* `Grants`: what one operation can do to the chunks of a cache;
* `Trail`: moments that follow each other so, with the balance of the cache at each;
* `Trail.peak`: what was granted is the running maximum of what is outside;
* `Pool.trail_serveAll`, `Account.trail_performAll`: the moments of a pool and of a context are
  such a trail;
* `allocations_are_highWater`: the high-water mark of every pool and every context.
-/
import LiveReload.Proofs.Context.StateKept

namespace LiveReload

/-! ### One operation -/

/-- What one operation can do to a cache: the system grants at most one chunk, which leaves the
cache empty, and is not asked while a chunk waits there. -/
structure Grants (before after : ChunkCache) : Prop where
  allocations : after.systemAllocations = before.systemAllocations ∨
    after.systemAllocations = before.systemAllocations + 1 ∧ after.free = []
  requests : before.free ≠ [] → after.requests = before.requests

namespace Grants

variable {cache after : ChunkCache}

/-- An operation that asks the system for nothing. -/
theorem of_same (allocations : after.systemAllocations = cache.systemAllocations)
    (requests : after.requests = cache.requests) : Grants cache after :=
  ⟨.inl allocations, fun _ => requests⟩

theorem refl (cache : ChunkCache) : Grants cache cache := of_same rfl rfl

/-- The bytes in the chunks do not count. -/
theorem memory (grants : Grants cache after) (memory : Memory) :
    Grants cache { after with memory } :=
  ⟨grants.allocations, grants.requests⟩

theorem acquired {answer : Except AllocError Chunk} (acquired : cache.acquire = (answer, after)) :
    Grants cache after := by
  have ends := cache.acquire_ends
  rw [acquired] at ends
  cases ends with
  | cached free => exact of_same rfl rfl
  | granted empty answered => exact ⟨.inr ⟨rfl, empty⟩, fun waiting => absurd empty waiting⟩
  | refused empty answered => exact ⟨.inl rfl, fun waiting => absurd empty waiting⟩

theorem reserved {arena grown : Arena} {layout : Layout} {answer : Except AllocError Region}
    (reserved : arena.reserve cache layout = (answer, grown, after)) : Grants cache after := by
  have ends := arena.reserve_ends cache layout
  rw [reserved] at ends
  cases ends with
  | oversized => exact refl cache
  | inHead => exact (refl cache).memory _
  | inNew _ _ _ acquired => exact (Grants.acquired acquired).memory _
  | refused _ _ _ refused => exact acquired refused

/-- With every chunk in the cache or outside, the system has granted the most that were outside. -/
theorem peak {outside : Nat} (grants : Grants cache after)
    (parts : outside + after.cached = after.systemAllocations) :
    after.systemAllocations = max cache.systemAllocations outside := by
  unfold ChunkCache.cached at parts
  rcases grants.allocations with same | ⟨more, empty⟩
  · omega
  · -- A grant leaves the cache empty, so all that was ever granted is outside: a new peak.
    rw [empty, List.length_nil] at parts
    omega

end Grants

/-- The cache and the chunks outside are all that were granted. -/
theorem Balanced.outside_add_cached {supply : ChunkSupply} {cache : ChunkCache}
    {outside : List Chunk} (balanced : Balanced supply cache outside) :
    outside.length + cache.cached = cache.systemAllocations := by
  obtain ⟨parts, enough⟩ := balanced.outside_length
  unfold ChunkCache.cached
  omega

/-! ### Trails -/

section Trails

variable {α : Type} {supply : ChunkSupply} {cache : α → ChunkCache} {outside : α → List Chunk}
  {start middle final : α} {moments later : List α}

/-- Moments that follow `start` one operation after the other, up to `final`; at each of them the
cache is balanced with the chunks outside. -/
inductive Trail (supply : ChunkSupply) (cache : α → ChunkCache) (outside : α → List Chunk) :
    α → List α → α → Prop
  | nil (moment : α) : Trail supply cache outside moment [] moment
  | cons {start next final : α} {moments : List α} (grants : Grants (cache start) (cache next))
      (balanced : Balanced supply (cache next) (outside next))
      (rest : Trail supply cache outside next moments final) :
    Trail supply cache outside start (next :: moments) final

namespace Trail

/-- A trail of one operation. -/
theorem one (grants : Grants (cache start) (cache final))
    (balanced : Balanced supply (cache final) (outside final)) :
    Trail supply cache outside start [final] final :=
  .cons grants balanced (.nil final)

theorem append (first : Trail supply cache outside start moments middle)
    (second : Trail supply cache outside middle later final) :
    Trail supply cache outside start (moments ++ later) final := by
  induction first with
  | nil => exact second
  | cons grants balanced rest ih => exact .cons grants balanced (ih second)

/-- Every moment ends a trail. -/
theorem upTo {before after : List α}
    (trail : Trail supply cache outside start (before ++ middle :: after) final) :
    Trail supply cache outside start (before ++ [middle]) middle := by
  induction before generalizing start with
  | nil =>
    cases trail with
    | cons grants balanced rest => exact one grants balanced
  | cons next before ih =>
    cases trail with
    | cons grants balanced rest => exact .cons grants balanced (ih rest)

theorem getLast? (trail : Trail supply cache outside start moments final) :
    (start :: moments).getLast? = some final := by
  induction trail with
  | nil => rfl
  | cons grants balanced rest ih => rw [List.getLast?_cons_cons, ih]

theorem balanced (trail : Trail supply cache outside start moments final)
    (first : Balanced supply (cache start) (outside start)) :
    Balanced supply (cache final) (outside final) := by
  induction trail with
  | nil => exact first
  | cons grants balanced rest ih => exact ih balanced

/-- What the system has granted at the end is the running maximum of what was outside. -/
theorem peak (trail : Trail supply cache outside start moments final) :
    (cache final).systemAllocations =
      (moments.map fun moment => (outside moment).length).foldl max
        (cache start).systemAllocations := by
  induction trail with
  | nil => rfl
  | cons grants balanced rest ih =>
    rw [ih, List.map_cons, List.foldl_cons, grants.peak balanced.outside_add_cached]

/-- While a chunk waits in the cache the next operation does not ask the system. -/
theorem quiet (trail : Trail supply cache outside start moments final) :
    (start :: moments).IsChain fun now next =>
      (cache now).cached ≠ 0 → (cache next).requests = (cache now).requests := by
  induction trail with
  | nil => exact .singleton _
  | cons grants balanced rest ih =>
    refine .cons_cons (fun waiting => grants.requests fun empty => waiting ?_) ih
    rw [ChunkCache.cached, empty, List.length_nil]

end Trail

/-! ### The high-water mark -/

/-- The counters of a cache tell the most chunks that were outside it, at every moment of a
history. -/
structure HighWater (cache : α → ChunkCache) (outside : α → List Chunk) (moments : List α) :
    Prop where
  /-- The chunks that the system has granted by now are the most that were outside so far. -/
  peak : ∀ before now after, moments = before ++ now :: after →
    ((before ++ [now]).map fun moment => (outside moment).length).max? =
      some (cache now).stats.systemAllocations
  /-- The system is never asked while the cache has a chunk. -/
  quiet : moments.IsChain fun now next =>
    (cache now).cached ≠ 0 → (cache next).requests = (cache now).requests
  /-- Use that never exceeds a number of chunks never brings the system to grant more. -/
  bounded : ∀ most, (∀ moment ∈ moments, (outside moment).length ≤ most) →
    ∀ moment ∈ moments, (cache moment).stats.systemAllocations ≤ most

theorem Trail.highWater (trail : Trail supply cache outside start moments final)
    (first : (outside start).length = (cache start).systemAllocations) :
    HighWater cache outside (start :: moments) := by
  have peak : ∀ before now after, start :: moments = before ++ now :: after →
      ((before ++ [now]).map fun moment => (outside moment).length).max? =
        some (cache now).stats.systemAllocations := by
    intro before now after parts
    rw [(cache now).stats_counts.1]
    cases before with
    | nil =>
      obtain ⟨rfl, rfl⟩ := List.cons.inj parts
      exact congrArg some first
    | cons other before =>
      obtain ⟨rfl, rfl⟩ := List.cons.inj parts
      rw [trail.upTo.peak, List.cons_append, List.map_cons, List.max?_cons', first]
  refine ⟨peak, trail.quiet, fun most within moment member => ?_⟩
  obtain ⟨before, after, parts⟩ := List.append_of_mem member
  have reached := List.max?_mem (peak before moment after parts)
  obtain ⟨highest, known, same⟩ := List.mem_map.mp reached
  rw [← same]
  refine within highest ?_
  rw [parts]
  rcases List.mem_append.mp known with earlier | now
  · exact List.mem_append_left _ earlier
  · rw [List.mem_singleton.mp now]
    exact List.mem_append_right _ List.mem_cons_self

end Trails

/-! ### The moments of a pool -/

namespace Pool

/-- The chunks of the arenas and of the holders. -/
def outside (pool : Pool) : List Chunk := pool.owned ++ pool.heldChunks

/-- The pool after each of the requests. -/
def moments (pool : Pool) : List PoolRequest → List Pool
  | [] => []
  | request :: rest => (pool.serve request).2 :: moments (pool.serve request).2 rest

theorem serve_grants (pool : Pool) (request : PoolRequest) :
    Grants pool.cache (pool.serve request).2.cache := by
  have ends := pool.serve_ends request
  generalize pool.serve request = served at ends ⊢
  cases ends with
  | granted reserved => exact .reserved reserved
  | stored reserved => exact (Grants.reserved reserved).memory _
  | refused asks reserved => exact .reserved reserved
  | freed name => exact .of_same rfl rfl
  | given asks =>
    rcases asks with ⟨_, acquired⟩ | ⟨_, taken⟩
    · exact .acquired acquired
    · obtain ⟨rest, free, rfl⟩ := ChunkCache.take?_eq_some taken
      exact .of_same rfl rfl
  | withheld acquired => exact .acquired acquired
  | nothing => exact .refl _
  | returned chunks asks parts => exact .of_same rfl rfl

theorem trail_serveAll {supply : ChunkSupply} {pool : Pool} (conserved : Conserved supply pool)
    (requests : List PoolRequest) :
    Trail supply cache outside pool (pool.moments requests) (pool.serveAll requests) := by
  induction requests generalizing pool with
  | nil => exact .nil pool
  | cons request rest ih =>
    have next := serve_conserved conserved request
    exact .cons (pool.serve_grants request) next.balanced (ih next)

end Pool

/-! ### The moments of a context -/

namespace Context

/-- The chunks of the two arenas. -/
def outside (context : Context) : List Chunk := context.mem.chunks ++ context.tmp.chunks

/-- The cache of a context is balanced with the chunks of its arenas, and came so from another in
one operation. -/
structure Advances (supply : ChunkSupply) (before after : Context) : Prop where
  grants : Grants before.chunks after.chunks
  balanced : Balanced supply after.chunks after.outside

variable {supply : ChunkSupply} {context : Context} {name : ArenaName} {layout : Layout}

/-- A request to one of the arenas that balances the cache with its chunks. -/
theorem advances_withArena {chunks : ChunkCache} {arena : Arena}
    (balanced : Balanced supply context.chunks context.outside)
    (grants : Grants context.chunks chunks)
    (one : ∀ rest, Balanced supply context.chunks ((context.arenaOf name).chunks ++ rest) →
      Balanced supply chunks (arena.chunks ++ rest)) :
    Advances supply context (context.withArena chunks arena name) := by
  cases name with
  | mem => exact ⟨grants, one context.tmp.chunks balanced⟩
  | tmp =>
    have swapped := one context.mem.chunks (balanced.perm List.perm_append_comm)
    exact ⟨grants, swapped.perm List.perm_append_comm⟩

theorem advances_reserve {answer : Except AllocError Region} {grown : Arena} {after : ChunkCache}
    (balanced : Balanced supply context.chunks context.outside)
    (reserved : (context.arenaOf name).reserve context.chunks layout = (answer, grown, after)) :
    Advances supply context (context.withArena after grown name) :=
  advances_withArena balanced (.reserved reserved) fun _ one => one.reserved reserved

theorem advances_allocateIn (balanced : Balanced supply context.chunks context.outside)
    (layout : Layout) (name : ArenaName) :
    Advances supply context (Action.allocateIn context layout name).2 := by
  rcases reserved : (context.arenaOf name).reserve context.chunks layout with
    ⟨error | region, grown, after⟩
  · rw [Action.allocateIn_of_error reserved]
    exact advances_reserve balanced reserved
  · rw [Action.allocateIn_of_ok reserved]
    exact advances_reserve balanced reserved

theorem advances_storeIn (balanced : Balanced supply context.chunks context.outside)
    (layout : Layout) (data : Array UInt8) (name : ArenaName) :
    Advances supply context (Action.storeIn context layout data name).2 := by
  rcases reserved : (context.arenaOf name).reserve context.chunks layout with
    ⟨error | region, grown, after⟩
  · rw [Action.storeIn_of_error data reserved]
    exact advances_reserve balanced reserved
  · rw [Action.storeIn_of_ok data reserved]
    exact advances_withArena balanced ((Grants.reserved reserved).memory _) fun _ one =>
      (one.reserved reserved).memory _

/-- An initializer is followed by one request, for the bytes of what it made. -/
theorem advances_ensureState {inside : Context} {data : Array UInt8} {make : Initializer}
    (unset : context.state = none) (made : make context = (.ok data, inside))
    (balanced : Balanced supply inside.chunks inside.outside) :
    Advances supply inside (context.ensureState layout make).2 := by
  have stored := advances_storeIn balanced layout data .mem
  have same : Action.storeIn inside layout data .mem = inside.storeMem layout data := rfl
  rw [same] at stored
  rcases result : inside.storeMem layout data with ⟨crash | region, after⟩ <;>
    rw [result] at stored
  · rw [ensureState_of_refused unset made result]
    exact stored
  · rw [ensureState_of_stored unset made result]
    exact ⟨stored.grants, stored.balanced⟩

end Context

namespace Account

/-- The cache of the context. -/
def cache (account : Account) : ChunkCache := account.context.chunks

/-- The chunks of the two arenas of the context. -/
def outside (account : Account) : List Chunk := account.context.outside

mutual

/-- The account after each operation of one step. The operations of an initializer come one by one
before the one that stores what it made. -/
def momentsIn (account : Account) : ContextStep → List Account
  | .ensureState layout body outcome =>
    match account.context.state with
    | some _ => [account.perform (.ensureState layout body outcome)]
    | none => moments account body ++ [account.perform (.ensureState layout body outcome)]
  | step => [account.perform step]

/-- The account after each operation of the steps in order. -/
def moments (account : Account) : List ContextStep → List Account
  | [] => []
  | step :: rest => momentsIn account step ++ moments (account.perform step) rest

end

variable {supply : ChunkSupply} {account : Account}

/-- A step that is one operation. -/
theorem trail_of_advances {after : Account}
    (advances : Context.Advances supply account.context after.context) :
    Trail supply cache outside account [after] after :=
  .one advances.grants advances.balanced

theorem asked_context (account : Account) (name : ArenaName) (layout : Layout) (bytes : List UInt8)
    (answer : Except Crash Region × Context) :
    (account.asked name layout bytes answer).context = answer.2 := by
  rcases answer with ⟨crash | region, context⟩ <;> rfl

theorem advances_freed (balanced : Balanced supply account.cache account.outside)
    (name : ArenaName) : Context.Advances supply account.context (account.freed name) :=
  Context.advances_withArena balanced (.of_same rfl rfl) fun _ one =>
    one.releaseAll _ ((List.reverse_perm _).symm.append_right _)

/-- State that is set is used as it is. -/
theorem advances_set {address : Nat} (balanced : Balanced supply account.cache account.outside)
    (set : account.context.state = some address) (layout : Layout) (body : List ContextStep)
    (outcome : Context → Except Crash (Vector UInt8 layout.size)) :
    Context.Advances supply account.context
      (account.perform (.ensureState layout body outcome)).context := by
  unfold perform
  simp only [set]
  rw [Context.ensureState_of_some set]
  exact ⟨.refl _, balanced⟩

/-- What is left of the use of state that is not set, once the steps of its initializer are
taken. -/
theorem advances_made {layout : Layout} {body : List ContextStep}
    (unset : account.context.state = none)
    (outcome : Context → Except Crash (Vector UInt8 layout.size))
    (balanced : Balanced supply (account.performAll body).cache
      (account.performAll body).outside) :
    Context.Advances supply (account.performAll body).context
      (account.perform (.ensureState layout body outcome)).context := by
  unfold perform
  dsimp only
  rw [unset]
  cases given : outcome (account.performAll body).context with
  | error crash =>
    rw [Context.ensureState_of_error unset (by rw [given]; rfl)]
    exact ⟨.refl _, balanced⟩
  | ok data =>
    exact Context.advances_ensureState unset (by rw [given]; rfl) balanced

mutual

theorem trail_perform {account : Account}
    (balanced : Balanced supply account.cache account.outside) :
    (step : ContextStep) →
      Trail supply cache outside account (account.momentsIn step) (account.perform step)
  | .openTick wake => trail_of_advances ⟨.refl _, balanced⟩
  | .closeTick =>
    have freed := advances_freed balanced .tmp
    trail_of_advances ⟨freed.grants, freed.balanced⟩
  | .freshId => trail_of_advances ⟨.refl _, balanced⟩
  | .reserve arena layout => by
    refine trail_of_advances ?_
    unfold perform
    rw [asked_context]
    exact Context.advances_allocateIn balanced layout arena
  | .store arena layout data => by
    refine trail_of_advances ?_
    unfold perform
    rw [asked_context]
    exact Context.advances_storeIn balanced layout data.toArray arena
  | .ensureState layout body outcome => by
    have inside := trail_performAll balanced body
    have after := inside.balanced balanced
    unfold momentsIn
    -- The steps of the initializer have happened even if it then fails or its bytes find no room.
    split
    · next set => exact trail_of_advances (advances_set balanced set layout body outcome)
    · next unset => exact inside.append (trail_of_advances (advances_made unset outcome after))
  | .write region offset data => by
    refine trail_of_advances ?_
    unfold perform
    split
    · exact ⟨(Grants.refl _).memory _, balanced.memory _⟩
    · exact ⟨.refl _, balanced⟩
  | .dropState =>
    have freed := advances_freed balanced .mem
    trail_of_advances ⟨freed.grants, freed.balanced⟩

theorem trail_performAll {account : Account}
    (balanced : Balanced supply account.cache account.outside) :
    (steps : List ContextStep) →
      Trail supply cache outside account (account.moments steps) (account.performAll steps)
  | [] => .nil account
  | step :: rest =>
    have first := trail_perform balanced step
    first.append (trail_performAll (first.balanced balanced) rest)

end

end Account

/-! ### Every history -/

/-- **Resident memory is the high-water mark.** After every request of arenas and holders of one
cache, and after every operation of a module and its host on a context, those inside initializers
included: the chunks that the system has granted are the most that were outside the cache at any
moment so far. The system is never asked while the cache has a chunk, and use that stays within a
number of chunks brings no more than that number from the system, however long it lasts. -/
theorem allocations_are_highWater (supply : ChunkSupply) :
    (∀ requests : List PoolRequest,
      let start := Pool.new supply
      let moments := start :: start.moments requests
      moments.getLast? = some (start.serveAll requests) ∧
        HighWater Pool.cache Pool.outside moments) ∧
    ∀ (args : List String) (seed : UInt64) (output : Output) (steps : List ContextStep),
      let start := Account.new args seed output supply
      let moments := start :: start.moments steps
      moments.getLast? = some (start.performAll steps) ∧
        HighWater Account.cache Account.outside moments := by
  constructor
  · intro requests start moments
    have trail := Pool.trail_serveAll (.new supply) requests
    exact ⟨trail.getLast?, trail.highWater rfl⟩
  · intro args seed output steps start moments
    have trail : Trail supply Account.cache Account.outside start (start.moments steps)
        (start.performAll steps) := Account.trail_performAll (.new supply) steps
    exact ⟨trail.getLast?, trail.highWater rfl⟩

/-- Two arenas that are used in turn need no more than one of them. -/
example :
    let layout : Layout := ⟨chunkSize, 1, ⟨0, rfl⟩, by decide⟩
    let turn : List PoolRequest :=
      [.allocate "one" layout, .free "one", .allocate "two" layout, .free "two"]
    ((Pool.new .spaced).moments (turn ++ turn)).map
        (fun pool => (pool.outside.length, pool.cache.systemAllocations)) =
      [(1, 1), (0, 1), (1, 1), (0, 1), (1, 1), (0, 1), (1, 1), (0, 1)] := by
  decide

end LiveReload
