/-
**When a request for bytes is refused, and what that leaves.**

An arena compares and adds whole numbers. In words of 64 bits every sum and difference on the way
has to fit a word: the cursor never leaves its chunk, and what is too large for a chunk is turned
down before anything is added, so they all do.

* `Word.plus?`, `Word.minus?`, `Word.alignUp?`, `Arena.reserveInWords`: a request in words, which
  ends with the first sum or difference that is no word;
* `Arena.Inside`: a cursor that has not left its chunk; then a request in words is the request
  (`Arena.Inside.reserveInWords_eq`), and no cursor ever leaves it (`Pool.serveAll_inside`);
* `Layout.Oversized`, `Arena.HasRoom`: what decides whether a request is refused
  (`Arena.reserve_eq_error_iff`);
* `Pool.serveAll_refuses`: all of this after any history.
-/
import LiveReload.Proofs.Memory.Isolation

namespace LiveReload

/-! ### Words -/

/-- A number that the machine adds and compares in one step. -/
abbrev Word := BitVec 64

namespace Word

/-- The sum, if it is a word. -/
def plus? (a b : Word) : Option Word := if a.uaddOverflow b then none else some (a + b)

/-- The difference, if it is a word. -/
def minus? (a b : Word) : Option Word := if a.usubOverflow b then none else some (a - b)

/-- `alignUp` with the bits below the alignment masked out. -/
def alignUp? (offset align : Word) : Option Word := do
  let reach ← plus? offset align
  let last ← minus? reach 1
  let low ← minus? align 1
  some (last &&& ~~~low)

variable {a b : Word}

theorem exists_plus? (fits : a.toNat + b.toNat < 2 ^ 64) :
    ∃ sum, plus? a b = some sum ∧ sum.toNat = a.toNat + b.toNat := by
  have level : ¬ a.uaddOverflow b = true := by simpa [BitVec.uaddOverflow] using fits
  exact ⟨a + b, if_neg level, BitVec.toNat_add_of_not_uaddOverflow level⟩

theorem exists_minus? (enough : b.toNat ≤ a.toNat) :
    ∃ difference, minus? a b = some difference ∧ difference.toNat = a.toNat - b.toNat := by
  have level : ¬ a.usubOverflow b = true := by simpa [BitVec.usubOverflow] using enough
  exact ⟨a - b, if_neg level, BitVec.toNat_sub_of_not_usubOverflow level⟩

/-- Masking out the low bits of a word leaves its multiple of a power of two. -/
theorem toNat_and_not {power : Nat} (word : Word) {low : Word} (ones : low.toNat = 2 ^ power - 1) :
    (word &&& ~~~low).toNat = word.toNat / 2 ^ power * 2 ^ power := by
  refine Nat.eq_of_testBit_eq fun bit => ?_
  have masked : low.getLsbD bit = decide (bit < power) := by
    rw [← BitVec.testBit_toNat, ones, Nat.testBit_two_pow_sub_one]
  rw [BitVec.testBit_toNat, BitVec.getLsbD_and, BitVec.getLsbD_not, masked,
    Nat.testBit_mul_two_pow, Nat.testBit_div_two_pow, BitVec.testBit_toNat]
  by_cases above : power ≤ bit
  · rw [Nat.sub_add_cancel above]
    by_cases inside : bit < 64
    · simp [above, inside]
    · simp [BitVec.getLsbD_of_ge word bit (Nat.le_of_not_lt inside)]
  · simp [above, Nat.lt_of_not_le above]

theorem exists_alignUp? (offset align : Word) (aligned : ∃ power, align.toNat = 2 ^ power)
    (fits : offset.toNat + align.toNat < 2 ^ 64) :
    ∃ start, alignUp? offset align = some start ∧
      start.toNat = LiveReload.alignUp offset.toNat align.toNat := by
  obtain ⟨power, aligned⟩ := aligned
  have positive : 1 ≤ align.toNat := aligned ▸ Nat.two_pow_pos power
  obtain ⟨reach, added, sum⟩ := exists_plus? fits
  have enough : 1 ≤ reach.toNat := by rw [sum]; exact Nat.le_add_left_of_le positive
  obtain ⟨last, lowered, below⟩ := exists_minus? (b := 1) enough
  obtain ⟨low, masked, ones⟩ := exists_minus? (b := 1) positive
  refine ⟨last &&& ~~~low, ?_, ?_⟩
  · simp only [alignUp?, added, Option.bind_eq_bind, Option.bind_some]
    rw [lowered, Option.bind_some, masked, Option.bind_some]
  · rw [toNat_and_not last (ones.trans (congrArg (· - 1) aligned)), below, sum, ← aligned]
    rfl

end Word

/-! ### Requests in words -/

namespace Arena

/-- `carve` with the cursor as a word. -/
def carveInWords (head : Chunk) (chunks : List Chunk) (offset : Word) (layout : Layout)
    (cache : ChunkCache) : Option (Except AllocError Region × Arena × ChunkCache) := do
  let cursor ← Word.plus? offset (.ofNat 64 layout.size)
  let (answer, arena, cache) := carve head chunks offset.toNat layout.size cache
  some (answer, { arena with cursor := cursor.toNat }, cache)

/-- `fit?` with words. -/
def fitInWords (arena : Arena) (layout : Layout) : Option (Option Word) := do
  let start ← Word.alignUp? (.ofNat 64 arena.cursor) (.ofNat 64 layout.align)
  let finish ← Word.plus? start (.ofNat 64 layout.size)
  some (if finish.toNat ≤ chunkSize then some start else none)

/-- `extend` with words. -/
def extendInWords (arena : Arena) (layout : Layout) (cache : ChunkCache) :
    Option (Except AllocError Region × Arena × ChunkCache) :=
  match cache.acquire with
  | (.error error, cache) => some (.error error, arena, cache)
  | (.ok chunk, cache) => carveInWords chunk (chunk :: arena.chunks) 0 layout cache

/-- `reserve` with words. -/
def reserveInWords (arena : Arena) (cache : ChunkCache) (layout : Layout) :
    Option (Except AllocError Region × Arena × ChunkCache) :=
  if chunkSize < layout.size || chunkAlign < layout.align then
    some (.error (.oversized layout.size layout.align chunkSize), arena, cache)
  else do
    let fits ← arena.fitInWords layout
    match arena.chunks, fits with
    | head :: _, some offset => carveInWords head arena.chunks offset layout cache
    | _, _ => arena.extendInWords layout cache

end Arena

/-- The request can be served by no chunk. -/
def Layout.Oversized (layout : Layout) : Prop :=
  chunkSize < layout.size ∨ chunkAlign < layout.align

namespace Arena

/-- The cursor has not left the head. -/
def Inside (arena : Arena) : Prop := arena.cursor ≤ chunkSize

/-- There is a head, and behind its cursor an aligned offset from which on the bytes are inside. -/
def HasRoom (arena : Arena) (layout : Layout) : Prop :=
  arena.chunks ≠ [] ∧ ∃ offset,
    arena.cursor ≤ offset ∧ layout.align ∣ offset ∧ offset + layout.size ≤ chunkSize

variable {arena grown : Arena} {cache after : ChunkCache} {layout : Layout} {region : Region}
  {error : AllocError}

/-! ### No word overflows -/

theorem carveInWords_eq (head : Chunk) (chunks : List Chunk) {offset : Word} (cache : ChunkCache)
    (inside : offset.toNat + layout.size ≤ chunkSize) :
    carveInWords head chunks offset layout cache =
      some (carve head chunks offset.toNat layout.size cache) := by
  have chunk : chunkSize < 2 ^ 64 := by decide
  have size : (BitVec.ofNat 64 layout.size).toNat = layout.size := Nat.mod_eq_of_lt (by omega)
  obtain ⟨cursor, added, sum⟩ := Word.exists_plus? (a := offset) (b := .ofNat 64 layout.size)
    (by rw [size]; omega)
  rw [carveInWords, added]
  simp only [Option.bind_eq_bind, Option.bind_some, carve, sum, size]

theorem Inside.fitInWords_eq (inside : arena.Inside) (size : layout.size ≤ chunkSize)
    (align : layout.align ≤ chunkAlign) :
    arena.fitInWords layout = some ((arena.fit? layout).map (BitVec.ofNat 64)) := by
  unfold Inside at inside
  have limits : 2 * chunkSize + chunkAlign < 2 ^ 64 := by decide
  have word {number : Nat} (fits : number < 2 ^ 64) : (BitVec.ofNat 64 number).toNat = number :=
    Nat.mod_eq_of_lt fits
  have cursorWord : (BitVec.ofNat 64 arena.cursor).toNat = arena.cursor := word (by omega)
  have alignWord : (BitVec.ofNat 64 layout.align).toNat = layout.align := word (by omega)
  have sizeWord : (BitVec.ofNat 64 layout.size).toNat = layout.size := word (by omega)
  obtain ⟨start, aligned, rounded⟩ := Word.exists_alignUp? (.ofNat 64 arena.cursor)
    (.ofNat 64 layout.align) (alignWord.symm ▸ layout.aligned)
    (by rw [cursorWord, alignWord]; omega)
  rw [cursorWord, alignWord] at rounded
  have near : alignUp arena.cursor layout.align < arena.cursor + layout.align :=
    alignUp_lt layout.align_pos
  obtain ⟨finish, added, sum⟩ := Word.exists_plus? (a := start) (b := .ofNat 64 layout.size)
    (by rw [rounded, sizeWord]; omega)
  have same : start = BitVec.ofNat 64 (alignUp arena.cursor layout.align) :=
    BitVec.eq_of_toNat_eq (by rw [rounded, word (by omega)])
  simp only [fitInWords, aligned, added, Option.bind_eq_bind, Option.bind_some, sum, rounded,
    sizeWord, fit?]
  split
  · rw [same, Option.map_some]
  · rfl

theorem extendInWords_eq (arena : Arena) (cache : ChunkCache) (size : layout.size ≤ chunkSize) :
    arena.extendInWords layout cache = some (arena.extend layout.size cache) := by
  unfold extendInWords extend
  rcases cache.acquire with ⟨error | chunk, after⟩
  · rfl
  · exact carveInWords_eq chunk (chunk :: arena.chunks) after (by simpa using size)

/-- **No sum and no difference overflows** as long as the cursor is inside. -/
theorem Inside.reserveInWords_eq (inside : arena.Inside) (cache : ChunkCache) (layout : Layout) :
    arena.reserveInWords cache layout = some (arena.reserve cache layout) := by
  unfold reserveInWords reserve
  split
  · rfl
  · next small =>
    simp only [Bool.or_eq_true, decide_eq_true_eq, not_or, Nat.not_lt] at small
    rw [inside.fitInWords_eq small.1 small.2, Option.bind_eq_bind, Option.bind_some]
    cases fits : arena.fit? layout with
    | none =>
      rw [Option.map_none]
      cases arena.chunks <;> exact arena.extendInWords_eq cache small.1
    | some offset =>
      obtain ⟨room, rfl⟩ : alignUp arena.cursor layout.align + layout.size ≤ chunkSize ∧
          alignUp arena.cursor layout.align = offset := by simpa [fit?] using fits
      have chunk : chunkSize < 2 ^ 64 := by decide
      have word : (BitVec.ofNat 64 (alignUp arena.cursor layout.align)).toNat =
          alignUp arena.cursor layout.align := Nat.mod_eq_of_lt (by omega)
      rw [Option.map_some]
      cases owned : arena.chunks with
      | nil => exact arena.extendInWords_eq cache small.1
      | cons head rest =>
        have carved := carveInWords_eq head (head :: rest) cache (by rw [word]; exact room)
        rwa [word] at carved

/-! ### Cursors -/

/-- A request that is served leaves the cursor inside. -/
theorem inside_of_reserve (reserved : arena.reserve cache layout = (.ok region, grown, after)) :
    grown.Inside := by
  have ends := arena.reserve_ends cache layout
  rw [reserved] at ends
  cases ends with
  | inHead _ _ _ fits => exact fits
  | inNew size => exact (Nat.zero_add layout.size).symm ▸ size

/-! ### Refusals -/

/-- An arena without room has no head, or one that is too full. -/
theorem not_hasRoom_iff : ¬ arena.HasRoom layout ↔
    arena.chunks = [] ∨ chunkSize < alignUp arena.cursor layout.align + layout.size := by
  unfold HasRoom
  rw [not_and_or, not_not]
  refine or_congr Iff.rfl ⟨?_, ?_⟩
  · intro nowhere
    by_contra room
    exact nowhere ⟨_, le_alignUp layout.align_pos, dvd_alignUp _ _, Nat.le_of_not_lt room⟩
  · rintro full ⟨offset, behind, aligned, room⟩
    have least := alignUp_le layout.align_pos behind aligned
    omega

/-- **Requests are refused for two reasons**: no chunk could serve them, or the arena needs one more
chunk, none is cached and the system has none. -/
theorem reserve_eq_error_iff (arena : Arena) (cache : ChunkCache) (layout : Layout) :
    (arena.reserve cache layout).1 = .error error ↔
      layout.Oversized ∧ error = .oversized layout.size layout.align chunkSize ∨
      ¬ layout.Oversized ∧ ¬ arena.HasRoom layout ∧ cache.free = [] ∧
        cache.supply.base cache.requests = none ∧ error = .outOfMemory chunkSize := by
  rw [not_hasRoom_iff]
  have ends := arena.reserve_ends cache layout
  have small (size : layout.size ≤ chunkSize) (align : layout.align ≤ chunkAlign) :
      ¬ layout.Oversized := not_or.mpr ⟨Nat.not_lt.mpr size, Nat.not_lt.mpr align⟩
  generalize arena.reserve cache layout = result at ends ⊢
  cases ends with
  | oversized large =>
    have large : layout.Oversized := large
    simp [large, eq_comm]
  | inHead size align owned fits =>
    have room := Nat.not_lt.mpr fits
    simp [small size align, owned, room, carve]
  | @inNew chunk after size align full acquired =>
    have ends := cache.acquire_ends
    rw [acquired] at ends
    simp only [carve, small size align, false_and, false_or]
    refine ⟨nofun, ?_⟩
    rintro ⟨_, _, free, refused, _⟩
    cases ends with
    | cached held => rw [free] at held; cases held
    | granted _ answered => rw [refused] at answered; cases answered
  | @refused error after size align full acquired =>
    have ends := cache.acquire_ends
    rw [acquired] at ends
    cases ends with
    | refused empty refused => simp [small size align, full, empty, refused, eq_comm]

end Arena

namespace Pool

variable {pool : Pool}

theorem serve_inside (inside : ∀ name, (pool.arena name).Inside) (request : PoolRequest)
    (name : String) : ((pool.serve request).2.arena name).Inside := by
  have put (owner : String) {arena : Arena} (cache : ChunkCache) (live : List (String × Region))
      (changed : arena.Inside) :
      (Pool.arena { pool with cache, arenas := Entries.put owner arena pool.arenas, live }
        name).Inside := by
    rw [arena_put, Function.update_apply]
    split
    · exact changed
    · exact inside name
  have ends := pool.serve_ends request
  generalize pool.serve request = served at ends ⊢
  cases ends with
  | granted reserved => exact put _ _ _ (Arena.inside_of_reserve reserved)
  | stored reserved => exact put _ _ _ (Arena.inside_of_reserve reserved)
  | refused asks reserved =>
    exact put _ _ pool.live ((Arena.unchanged_of_refused reserved).1 ▸ inside _)
  | freed owner => exact put _ _ _ (Nat.zero_le _)
  | given => exact inside name
  | withheld => exact inside name
  | nothing => exact inside name
  | returned => exact inside name

/-- No cursor ever leaves its chunk. -/
theorem serveAll_inside (supply : ChunkSupply) (requests : List PoolRequest) (name : String) :
    (((new supply).serveAll requests).arena name).Inside :=
  serveAll_keeps (fun pool => ∀ name, (pool.arena name).Inside) (fun _ => serve_inside)
    (fun _ => Nat.zero_le _) requests name

/-- **Refusals are exact, and nothing overflows.** After any requests of arenas and holders,
whatever an arena is asked for:
* no sum and no difference in words overflows;
* the request is refused as too large exactly if it is larger than a chunk or aligned to more than
  one, and else as out of memory exactly if the arena has no head with room for it, the cache is
  empty and the system refuses a chunk;
* when it is refused, the arena, the cache, the counters and all bytes are as before;
* when it is served, the cursor has not left its chunk. -/
theorem serveAll_refuses (supply : ChunkSupply) (requests : List PoolRequest) (name : String)
    (layout : Layout) :
    let pool := (new supply).serveAll requests
    let arena := pool.arena name
    let cache := pool.cache
    let result := arena.reserve cache layout
    arena.reserveInWords cache layout = some result ∧
      (∀ error, result.1 = .error error ↔
        layout.Oversized ∧ error = .oversized layout.size layout.align chunkSize ∨
        ¬ layout.Oversized ∧ ¬ arena.HasRoom layout ∧ cache.free = [] ∧
          supply.base cache.requests = none ∧ error = .outOfMemory chunkSize) ∧
      (∀ error, result.1 = .error error →
        result.2.1 = arena ∧ result.2.2 = { cache with requests := result.2.2.requests }) ∧
      ∀ region, result.1 = .ok region → result.2.1.cursor ≤ chunkSize := by
  intro pool arena cache result
  have inside : arena.Inside := serveAll_inside supply requests name
  have source : cache.supply = supply := (serveAll_conserved (.new supply) requests).balanced.source
  refine ⟨inside.reserveInWords_eq cache layout, ?_, ?_, ?_⟩
  · intro error
    rw [← source]
    exact arena.reserve_eq_error_iff cache layout
  · intro error refused
    exact Arena.unchanged_of_refused (Prod.ext refused rfl)
  · intro region served
    exact Arena.inside_of_reserve (Prod.ext served rfl)

/-- A system with one chunk: the last byte of a head is served and an empty request behind it, but
not one byte more. -/
example :
    let full := (new ⟨fun request => if request = 0 then some 0 else none⟩).serveAll
      [.allocate "scene" ⟨chunkSize, 4096, ⟨12, rfl⟩, by decide⟩,
        .allocate "scene" ⟨0, 1, ⟨0, rfl⟩, by decide⟩]
    full.live.map (fun entry => entry.2.offset) = [chunkSize, 0] ∧
      ((full.arena "scene").reserve full.cache ⟨1, 1, ⟨0, rfl⟩, by decide⟩).1 =
        .error (.outOfMemory chunkSize) :=
  ⟨by decide, rfl⟩

end Pool

end LiveReload
