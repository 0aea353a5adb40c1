/-
**The application state is safe.**

A module keeps its application state in the arena that lasts, by an address that the context
carries. The initializer of the state runs with the whole context at hand: it may reserve memory,
end ticks, drop the state or make it itself before its own value is stored. Whatever a module does,
the address in the context is that of a region in use in that arena, away from everything else that
is in use, and holds what was last written through it.

* `ContextStep`: what a module and its host do with the memory of a context, initializers included;
* `Account`: a context, with its regions in use, what they hold, and the region of the state;
* `Safe`: the account is true of the context (`perform_safe`, by recursion on the step);
* `Account.performAll_keeps_state`: where the state lies, what it holds, and that it stays.
-/
import LiveReload.Context.Action
import LiveReload.Proofs.Memory.Contents

namespace LiveReload

open Pool (Filled)

/-! ### Steps -/

/-- What is done with the memory of a context. -/
inductive ContextStep
  | openTick (wake : Span)
  | closeTick
  | freshId
  | reserve (arena : ArenaName) (layout : Layout)
  | store (arena : ArenaName) (layout : Layout) (data : Vector UInt8 layout.size)
  /-- Uses the state; an initializer takes the steps of `body` and ends with `outcome`. -/
  | ensureState (layout : Layout) (body : List ContextStep)
      (outcome : Context → Except Crash (Vector UInt8 layout.size))
  /-- Data are written through a region, that of the state or another, from its byte `offset` on. -/
  | write (region : Region) (offset : Nat) (data : Array UInt8)
  | dropState

/-- The step neither writes through a region nor drops the state. -/
def ContextStep.Spares (region : Region) : ContextStep → Prop
  | write other _ _ => other ≠ region
  | dropState => False
  | _ => True

/-- The name of an arena among the arenas of a context. -/
def ArenaName.key : ArenaName → String
  | mem => "mem"
  | tmp => "tmp"

/-- A context, with the regions in use and what they hold, and the region of the state. -/
structure Account where
  context : Context
  holdings : List Holding
  state : Option Region

namespace Account

/-- The account of a context that nothing has used yet. -/
def new (args : List String) (seed : UInt64) (output : Output) (supply : ChunkSupply) : Account :=
  ⟨.new args seed output supply, [], none⟩

/-- The regions in use without those of one arena. -/
def without (account : Account) (arena : ArenaName) : List Holding :=
  account.holdings.filter fun holding => holding.grant.owner ≠ arena.key

/-- The account after bytes were asked for in one of the arenas. -/
def asked (account : Account) (arena : ArenaName) (layout : Layout) (bytes : List UInt8) :
    Except Crash Region × Context → Account
  | (.ok region, context) =>
    { account with
      context, holdings := ⟨⟨arena.key, layout, region⟩, bytes⟩ :: account.holdings }
  | (.error _, context) => { account with context }

/-- The account after an initializer gave the bytes of the state. -/
def settled (inside : Account) (layout : Layout) (data : Array UInt8) : Account :=
  let stored := inside.context.storeMem layout data
  { inside.asked .mem layout data.toList stored with
    state := match stored.1 with
      | .ok region => some region
      | .error _ => inside.state }

mutual

/-- The account after one step. The context is what the step makes of it; beside it, regions come
into use when they are reserved and go out of use when their arena is freed. -/
def perform (account : Account) : ContextStep → Account
  | .openTick wake => { account with context := account.context.openTick wake }
  | .closeTick =>
    { account with context := account.context.closeTick, holdings := account.without .tmp }
  | .freshId => { account with context := account.context.freshId.2 }
  | .reserve arena layout =>
    account.asked arena layout (List.replicate layout.size 0)
      (Action.allocateIn account.context layout arena)
  | .store arena layout data =>
    account.asked arena layout data.toList
      (Action.storeIn account.context layout data.toArray arena)
  | .ensureState layout body outcome =>
    let initializer : Context.Initializer := fun context =>
      let inside := performAll { account with context } body
      ((outcome inside.context).map Vector.toArray, inside.context)
    let context := (account.context.ensureState layout initializer).2
    let inside := performAll account body
    match account.context.state, outcome inside.context with
    | some _, _ => { account with context }
    | none, .error _ => { inside with context }
    | none, .ok data => { inside.settled layout data.toArray with context }
  | .write region offset data =>
    if region ∈ account.holdings.map (·.grant.region) ∧ offset + data.size ≤ region.size then
      { account with
        context := account.context.writeAt (region.address + offset) data
        holdings := account.holdings.map (Holding.rewritten region offset data) }
    else account
  | .dropState =>
    { context := account.context.dropState, holdings := account.without .mem, state := none }

/-- The account after steps in order. -/
def performAll (account : Account) : List ContextStep → Account
  | [] => account
  | step :: rest => performAll (perform account step) rest

end

end Account

/-! ### A context as a pool of two arenas -/

/-- One of the two arenas. -/
def Context.arenaOf (context : Context) : ArenaName → Arena
  | .mem => context.mem
  | .tmp => context.tmp

/-- The context after a request to one of its arenas. -/
def Context.withArena (context : Context) (chunks : ChunkCache) (arena : Arena) :
    ArenaName → Context
  | .mem => { context with mem := arena, chunks }
  | .tmp => { context with tmp := arena, chunks }

namespace Action

variable {context : Context} {name : ArenaName} {layout : Layout} {grown : Arena}
  {after : ChunkCache}

theorem allocateIn_of_ok {region : Region}
    (reserved : (context.arenaOf name).reserve context.chunks layout = (.ok region, grown, after)) :
    allocateIn context layout name = (.ok region, context.withArena after grown name) := by
  cases name <;>
    simp only [Context.arenaOf] at reserved <;>
    simp only [allocateIn, Context.allocateMem, Context.allocateTmp, Arena.allocate, reserved,
      Context.withArena]

theorem allocateIn_of_error {error : AllocError}
    (refused : (context.arenaOf name).reserve context.chunks layout =
      (.error error, grown, after)) :
    allocateIn context layout name =
      (.error (Arena.refusal error), context.withArena after grown name) := by
  cases name <;>
    simp only [Context.arenaOf] at refused <;>
    simp only [allocateIn, Context.allocateMem, Context.allocateTmp, Arena.allocate, refused,
      Context.withArena]

theorem storeIn_of_ok {region : Region} (data : Array UInt8)
    (reserved : (context.arenaOf name).reserve context.chunks layout = (.ok region, grown, after)) :
    storeIn context layout data name =
      (.ok region, context.withArena (Arena.fillRegion after region data) grown name) := by
  cases name <;>
    simp only [Context.arenaOf] at reserved <;>
    simp only [storeIn, Context.storeMem, Context.storeTmp, Arena.store, Arena.allocate, reserved,
      Context.withArena]

theorem storeIn_of_error {error : AllocError} (data : Array UInt8)
    (refused : (context.arenaOf name).reserve context.chunks layout =
      (.error error, grown, after)) :
    storeIn context layout data name =
      (.error (Arena.refusal error), context.withArena after grown name) := by
  cases name <;>
    simp only [Context.arenaOf] at refused <;>
    simp only [storeIn, Context.storeMem, Context.storeTmp, Arena.store, Arena.allocate, refused,
      Context.withArena]

end Action

namespace Account

/-- The cache and the arenas of a context, with the regions in use. -/
def pool (account : Account) : Pool where
  cache := account.context.chunks
  arenas := [(ArenaName.mem.key, account.context.mem), (ArenaName.tmp.key, account.context.tmp)]
  held := []
  live := account.holdings.map Holding.entry

theorem arena_pool (account : Account) (name : ArenaName) :
    account.pool.arena name.key = account.context.arenaOf name := by
  cases name <;> rfl

/-- A request to an arena of the context is one to that arena of the pool. -/
theorem pool_withArena (account : Account) (chunks : ChunkCache) (arena : Arena) (name : ArenaName)
    (holdings : List Holding) (state : Option Region) :
    pool ⟨account.context.withArena chunks arena name, holdings, state⟩ =
      { account.pool with
        cache := chunks, arenas := Entries.put name.key arena account.pool.arenas
        live := holdings.map Holding.entry } := by
  cases name <;> rfl

/-! ### What every step keeps -/

/-- The account is true of its context, and the state lies in a region in use that was reserved in
the arena that lasts. -/
structure Safe (supply : ChunkSupply) (account : Account) : Prop where
  filled : Filled supply account.pool account.holdings
  address : account.context.state = account.state.map Region.address
  region : ∀ region ∈ account.state, ∃ holding ∈ account.holdings,
    holding.grant.owner = ArenaName.mem.key ∧ holding.grant.region = region

variable {supply : ChunkSupply} {account : Account}

theorem Safe.new (args : List String) (seed : UInt64) (output : Output) (supply : ChunkSupply) :
    Safe supply (new args seed output supply) where
  filled :=
    { isolated := ⟨⟨.new supply, (by decide : ["mem", "tmp"].Nodup)⟩, .nothing _, rfl⟩
      bytes := by simp [Account.new] }
  address := rfl
  region := by simp [Account.new]

/-- Nothing but the memory of a context is in its account. -/
theorem Safe.of_same {context : Context} (safe : Safe supply account)
    (chunks : context.chunks = account.context.chunks) (mem : context.mem = account.context.mem)
    (tmp : context.tmp = account.context.tmp) (state : context.state = account.context.state) :
    Safe supply { account with context } where
  filled := by
    have same : pool { account with context } = account.pool := by
      simp only [pool, chunks, mem, tmp]
    rw [same]
    exact safe.filled
  address := state.trans safe.address
  region := safe.region

/-- A request to an arena that the pool answers likewise keeps the state where it is. -/
theorem Safe.withArena {chunks : ChunkCache} {arena : Arena} {name : ArenaName}
    {holdings : List Holding} (safe : Safe supply account)
    (filled : Filled supply
      { account.pool with
        cache := chunks, arenas := Entries.put name.key arena account.pool.arenas
        live := holdings.map Holding.entry } holdings)
    (kept : ∀ holding ∈ account.holdings, holding.grant.owner = ArenaName.mem.key →
      holding ∈ holdings) :
    Safe supply ⟨account.context.withArena chunks arena name, holdings, account.state⟩ where
  filled := by
    rw [pool_withArena]
    exact filled
  address := by
    rw [← safe.address]
    cases name <;> rfl
  region := by
    intro region here
    obtain ⟨holding, member, owner, same⟩ := safe.region region here
    exact ⟨holding, kept holding member owner, owner, same⟩

section Requests

variable {name : ArenaName} {layout : Layout} {grown : Arena} {after : ChunkCache}

theorem Safe.refused {error : AllocError} (safe : Safe supply account) (sound : supply.Sound)
    (refused : (account.context.arenaOf name).reserve account.context.chunks layout =
      (.error error, grown, after)) :
    Safe supply { account with context := account.context.withArena after grown name } := by
  have served := Pool.serve_filled safe.filled sound (.allocate name.key layout) trivial
  rw [← account.arena_pool] at refused
  have answer : account.pool.serve (.allocate name.key layout) =
      account.pool.settle name.key (.error error, grown, after) :=
    congrArg (account.pool.settle name.key) refused
  rw [answer] at served
  exact safe.withArena served fun holding member _ => member

theorem Safe.allocated (safe : Safe supply account) (sound : supply.Sound) (name : ArenaName)
    (layout : Layout) :
    Safe supply (account.asked name layout (List.replicate layout.size 0)
      (Action.allocateIn account.context layout name)) := by
  rcases reserved : (account.context.arenaOf name).reserve account.context.chunks layout with
    ⟨error | region, grown, after⟩
  · rw [Action.allocateIn_of_error reserved]
    exact safe.refused sound reserved
  · have served := Pool.serve_filled safe.filled sound (.allocate name.key layout) trivial
    rw [Action.allocateIn_of_ok reserved]
    rw [← account.arena_pool] at reserved
    have answer : account.pool.serve (.allocate name.key layout) =
        account.pool.settle name.key (.ok region, grown, after) :=
      congrArg (account.pool.settle name.key) reserved
    rw [answer] at served
    exact safe.withArena served fun holding member _ => List.mem_cons_of_mem _ member

theorem Safe.stored (safe : Safe supply account) (sound : supply.Sound) (name : ArenaName)
    (layout : Layout) {data : Array UInt8} (exact : data.size = layout.size) :
    Safe supply (account.asked name layout data.toList
      (Action.storeIn account.context layout data name)) := by
  rcases reserved : (account.context.arenaOf name).reserve account.context.chunks layout with
    ⟨error | region, grown, after⟩
  · rw [Action.storeIn_of_error data reserved]
    exact safe.refused sound reserved
  · have served := Pool.serve_filled safe.filled sound (.store name.key layout data) exact
    rw [Action.storeIn_of_ok data reserved]
    rw [← account.arena_pool] at reserved
    have answer : account.pool.serve (.store name.key layout data) =
        (.region region,
          { account.pool with
            cache := Arena.fillRegion after region data
            arenas := Entries.put name.key grown account.pool.arenas
            live := (name.key, region) :: account.pool.live }) := by
      have settled : account.pool.settle name.key
          ((account.pool.arena name.key).reserve account.pool.cache layout) = _ :=
        congrArg (account.pool.settle name.key) reserved
      simp only [Pool.serve, settled]
      rfl
    rw [answer] at served
    exact safe.withArena served fun holding member _ => List.mem_cons_of_mem _ member

end Requests

theorem Safe.write {region : Region} {offset : Nat} {data : Array UInt8}
    (safe : Safe supply account) (sound : supply.Sound)
    (live : region ∈ account.holdings.map (·.grant.region))
    (inside : offset + data.size ≤ region.size) :
    Safe supply
      { account with
        context := account.context.writeAt (region.address + offset) data
        holdings := account.holdings.map (Holding.rewritten region offset data) } where
  filled := by
    have entries : (account.holdings.map (Holding.rewritten region offset data)).map Holding.entry =
        account.holdings.map Holding.entry := by
      rw [List.map_map]
      refine List.map_congr_left fun holding _ => ?_
      unfold Holding.entry
      rw [Function.comp_apply, Holding.rewritten_grant]
    have here : region ∈ account.pool.live.map Prod.snd := by
      show region ∈ (account.holdings.map Holding.entry).map Prod.snd
      rw [List.map_map]
      exact live
    have same : pool { account with
        context := account.context.writeAt (region.address + offset) data
        holdings := account.holdings.map (Holding.rewritten region offset data) } =
        account.pool.write region offset data := by
      simp only [pool, entries]
      rfl
    rw [same]
    exact safe.filled.write sound here inside
  address := safe.address
  region := by
    intro region here
    obtain ⟨holding, member, owner, same⟩ := safe.region region here
    refine ⟨_, List.mem_map_of_mem member, ?_⟩
    rw [Holding.rewritten_grant]
    exact ⟨owner, same⟩

/-- The context after one of its arenas was freed. -/
def freed (account : Account) (name : ArenaName) : Context :=
  let chunks := (account.context.arenaOf name).chunks
  account.context.withArena (account.context.chunks.releaseAll chunks.reverse) .empty name

theorem Safe.filled_freed (safe : Safe supply account) (sound : supply.Sound) (name : ArenaName)
    (state : Option Region) :
    Filled supply (pool ⟨account.freed name, account.without name, state⟩)
      (account.without name) := by
  have served := Pool.serve_filled safe.filled sound (.free name.key) trivial
  have entries : (account.without name).map Holding.entry =
      (account.holdings.map Holding.entry).filter fun entry => entry.1 ≠ name.key := by
    rw [List.filter_map]
    rfl
  unfold freed
  rw [pool_withArena, entries, ← account.arena_pool]
  exact served

theorem Safe.closeTick (safe : Safe supply account) (sound : supply.Sound) :
    Safe supply (account.perform .closeTick) where
  filled := safe.filled_freed sound .tmp account.state
  address := safe.address
  region := by
    intro region here
    obtain ⟨holding, member, owner, same⟩ := safe.region region here
    refine ⟨holding, List.mem_filter.mpr ⟨member, decide_eq_true ?_⟩, owner, same⟩
    rw [owner]
    decide

theorem Safe.dropState (safe : Safe supply account) (sound : supply.Sound) :
    Safe supply (account.perform .dropState) where
  filled := safe.filled_freed sound .mem none
  address := rfl
  region := by simp [perform]

/-- The value of an initializer becomes the state. -/
theorem Safe.settled {inside : Account} (safe : Safe supply inside) (sound : supply.Sound)
    {layout : Layout} {data : Array UInt8} (exact : data.size = layout.size)
    (initializer : Context.Initializer)
    (context : Context) (unset : context.state = none)
    (made : initializer context = (.ok data, inside.context)) :
    Safe supply
      { inside.settled layout data with
        context := (context.ensureState layout initializer).2 } := by
  have stored := safe.stored sound .mem layout exact
  have same : Action.storeIn inside.context layout data .mem =
      inside.context.storeMem layout data := rfl
  rw [same] at stored
  unfold Account.settled
  rcases result : inside.context.storeMem layout data with ⟨crash | region, after⟩
  · rw [result] at stored
    rw [Context.ensureState_of_refused unset made result]
    exact stored
  · rw [result] at stored
    rw [Context.ensureState_of_stored unset made result]
    refine ⟨stored.filled, rfl, ?_⟩
    intro region here
    obtain rfl := Option.some.inj here
    exact ⟨_, List.mem_cons_self, rfl, rfl⟩

mutual

theorem perform_safe (sound : supply.Sound) {account : Account} (safe : Safe supply account) :
    (step : ContextStep) → Safe supply (account.perform step)
  | .openTick wake => safe.of_same rfl rfl rfl rfl
  | .closeTick => safe.closeTick sound
  | .freshId => safe.of_same rfl rfl rfl rfl
  | .reserve arena layout => safe.allocated sound arena layout
  | .store arena layout data => safe.stored sound arena layout data.size_toArray
  | .ensureState layout body outcome => by
    have inside := performAll_safe sound safe body
    unfold perform
    dsimp only
    split
    · next set =>
      rw [Context.ensureState_of_some set]
      exact safe
    · next unset failed =>
      rw [Context.ensureState_of_error unset (by rw [failed]; rfl)]
      exact inside
    · next data unset given =>
      exact inside.settled sound data.size_toArray _ _ unset (by rw [given]; rfl)
  | .write region offset data => by
    unfold perform
    split
    · next allowed => exact safe.write sound allowed.1 allowed.2
    · exact safe
  | .dropState => safe.dropState sound

theorem performAll_safe (sound : supply.Sound) {account : Account} (safe : Safe supply account) :
    (steps : List ContextStep) → Safe supply (account.performAll steps)
  | [] => safe
  | step :: rest => performAll_safe sound (perform_safe sound safe step) rest

end

/-! ### What leaves the state alone -/

theorem asked_keeps (account : Account) (name : ArenaName) (layout : Layout) (bytes : List UInt8)
    (answer : Except Crash Region × Context) :
    (account.asked name layout bytes answer).state = account.state ∧
      account.holdings ⊆ (account.asked name layout bytes answer).holdings := by
  rcases answer with ⟨crash | region, context⟩
  · exact ⟨rfl, List.Subset.refl _⟩
  · exact ⟨rfl, List.subset_cons_self _ _⟩

/-- What the state holds stays over every step that neither writes through its region nor drops
it: another use of the state is no such step, and an initializer no longer runs. -/
theorem perform_keeps {holding : Holding} (safe : Safe supply account)
    (here : account.state = some holding.grant.region) (member : holding ∈ account.holdings)
    (owner : holding.grant.owner = ArenaName.mem.key) {step : ContextStep}
    (spares : step.Spares holding.grant.region) :
    (account.perform step).state = account.state ∧ holding ∈ (account.perform step).holdings := by
  cases step with
  | openTick wake => exact ⟨rfl, member⟩
  | closeTick =>
    refine ⟨rfl, List.mem_filter.mpr ⟨member, decide_eq_true ?_⟩⟩
    rw [owner]
    decide
  | freshId => exact ⟨rfl, member⟩
  | reserve arena layout =>
    obtain ⟨same, kept⟩ := account.asked_keeps arena layout (List.replicate layout.size 0)
      (Action.allocateIn account.context layout arena)
    exact ⟨same, kept member⟩
  | store arena layout data =>
    obtain ⟨same, kept⟩ := account.asked_keeps arena layout data.toList
      (Action.storeIn account.context layout data.toArray arena)
    exact ⟨same, kept member⟩
  | ensureState layout body outcome =>
    have set : account.context.state = some holding.grant.region.address := by
      rw [safe.address, here]
      rfl
    unfold perform
    simp only [set]
    exact ⟨trivial, member⟩
  | write region offset data =>
    unfold perform
    split
    · refine ⟨rfl, List.mem_map.mpr ⟨holding, member, if_neg ?_⟩⟩
      exact fun written => spares written.1.symm
    · exact ⟨rfl, member⟩
  | dropState => exact spares.elim

theorem performAll_keeps {holding : Holding} (sound : supply.Sound) (safe : Safe supply account)
    (here : account.state = some holding.grant.region) (member : holding ∈ account.holdings)
    (owner : holding.grant.owner = ArenaName.mem.key) {steps : List ContextStep}
    (spares : ∀ step ∈ steps, step.Spares holding.grant.region) :
    (account.performAll steps).state = account.state ∧
      holding ∈ (account.performAll steps).holdings := by
  induction steps generalizing account with
  | nil => exact ⟨rfl, member⟩
  | cons step rest ih =>
    obtain ⟨same, kept⟩ :=
      perform_keeps safe here member owner (spares step List.mem_cons_self)
    obtain ⟨later, still⟩ := ih (perform_safe sound safe step) (same.trans here) kept
      fun other member => spares other (List.mem_cons_of_mem _ member)
    exact ⟨later.trans same, still⟩

/-- **The application state is safe.** If the chunks of the system are aligned and apart, then after
any steps, initializers and what they do included: as long as a context has application state, this
is a region reserved in the arena that lasts since that was last freed; it lies in a chunk of that
arena, apart from every other region in use and from every chunk in the cache; it holds what was
last written through it, and goes on to until a step writes through it or drops the state, so that
neither the end of a tick nor memory reserved elsewhere changes it. Right after the state is dropped
there is none, and the arena owns no chunk. A moment inside an initializer is the end of a shorter
history, in which the steps before it and those of the initializer up to then were taken. -/
theorem performAll_keeps_state (supply : ChunkSupply) (sound : supply.Sound) (args : List String)
    (seed : UInt64) (output : Output) (steps : List ContextStep) :
    let account := (new args seed output supply).performAll steps
    let context := account.context
    (∀ address, context.state = some address →
      ∃ before app after, account.holdings = before ++ app :: after ∧
        let region := app.grant.region
        account.state = some region ∧ region.address = address ∧
          app.grant.owner = ArenaName.mem.key ∧ region.chunk ∈ context.mem.chunks ∧
          region.offset + region.size ≤ chunkSize ∧
          (∀ other ∈ before ++ after,
            Apart region.address region.size
              other.grant.region.address other.grant.region.size) ∧
          (∀ chunk ∈ context.chunks.free,
            Apart region.address region.size chunk.base chunkSize) ∧
          context.readAt address region.size = app.bytes ∧
          ∀ more, (∀ step ∈ more, step.Spares region) →
            let later := (account.performAll more).context
            later.state = some address ∧ later.readAt address region.size = app.bytes) ∧
      let dropped := (account.perform .dropState).context
      dropped.state = none ∧ dropped.mem.chunks = [] := by
  intro account context
  have safe : Safe supply account := performAll_safe sound (.new args seed output supply) steps
  refine ⟨fun address set => ?_, rfl, rfl⟩
  rw [safe.address, Option.map_eq_some_iff] at set
  obtain ⟨region, here, rfl⟩ := set
  obtain ⟨app, member, owner, rfl⟩ := safe.region region here
  obtain ⟨before, after, parts⟩ := List.append_of_mem member
  have isolated := safe.filled.isolated
  have granted := List.mem_map_of_mem (f := Holding.grant) member
  have owned := isolated.placed.owned app.grant granted
  rw [owner, arena_pool] at owned
  refine ⟨before, app, after, parts, here, rfl, owner, owned,
    (isolated.placed.fits app.grant granted).inside, ?_, ?_, safe.filled.bytes app member, ?_⟩
  · intro other elsewhere
    have apart := isolated.pairwise_apart sound
    rw [parts, List.pairwise_map, List.pairwise_append, List.pairwise_cons] at apart
    rcases List.mem_append.mp elsewhere with later | earlier
    · exact (apart.2.2 other later app List.mem_cons_self).symm
    · exact apart.2.1.1 other earlier
  · exact fun chunk free => isolated.apart_of_free sound granted free
  · intro more spares later
    have still := performAll_safe sound safe more
    obtain ⟨same, kept⟩ := performAll_keeps sound safe here member owner spares
    refine ⟨?_, still.filled.bytes app kept⟩
    rw [still.address, same, here]
    rfl

/-- State is made by an initializer that reserves scratch memory, makes the state itself and ends
the tick; then one byte of it is written. -/
def nestedSteps : List ContextStep :=
  let inner := ContextStep.ensureState Action.wordLayout [] fun _ => .ok #v[1, 0, 0, 0, 0, 0, 0, 0]
  [.ensureState Action.wordLayout [.reserve .tmp Action.wordLayout, inner, .closeTick] fun _ =>
      .ok #v[2, 0, 0, 0, 0, 0, 0, 0],
    .write ⟨⟨1, 3 * chunkSize⟩, 8, 8⟩ 1 #[7]]

/-- The value that the initializer gives in the end is the state, and scratch memory leaves it. -/
theorem performAll_keeps_state_nested :
    let account := (new [] 0 .discarding .spaced).performAll nestedSteps
    let address := 3 * chunkSize + 8
    let scratch : List ContextStep :=
      [.store .tmp Action.wordLayout #v[3, 3, 3, 3, 3, 3, 3, 3], .closeTick]
    ChunkSupply.spaced.Sound ∧ account.context.state = some address ∧
      (∀ region, ∀ step ∈ scratch, step.Spares region) ∧
      (account.performAll scratch).context.readAt address 8 = [2, 7, 0, 0, 0, 0, 0, 0] := by
  intro account address scratch
  obtain ⟨state, _⟩ := performAll_keeps_state .spaced ChunkSupply.spaced_sound [] 0 .discarding
    nestedSteps
  have set : ((new [] 0 .discarding .spaced).performAll nestedSteps).context.state =
      some (3 * chunkSize + 8) := by decide
  have spares : ∀ region, ∀ step ∈ scratch, step.Spares region := by
    simp [scratch, ContextStep.Spares]
  obtain ⟨before, app, after, parts, here, place, _, _, _, _, _, bytes, stays⟩ := state address set
  have size : 8 = app.grant.region.size := congrArg Region.size (Option.some.inj here)
  rw [← size] at bytes stays
  refine ⟨ChunkSupply.spaced_sound, set, spares, ?_⟩
  rw [(stays scratch (spares _)).2, ← bytes]
  decide

end Account

end LiveReload
