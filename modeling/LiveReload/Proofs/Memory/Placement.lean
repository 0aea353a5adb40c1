/-
**Where arenas place regions.**

An arena serves its head from the first byte to the last, so a region that it grants starts behind
every region that it granted in the same chunk before. Regions in different chunks are apart as the
chunks are. Both hold for any number of arenas as long as no two of them own one chunk.

* `Apart`, `ChunkSupply.Sound`: a system whose chunks are aligned and do not overlap;
* `Grant`: a region in use with its arena and its layout;
* `Placed`: the regions in use lie in chunks of their arenas, below the cursor in the head;
* `Placed.reserved`, `Placed.freed`: what arenas do keeps it.
-/
import LiveReload.Proofs.Memory.Ledger
import Mathlib.Logic.Function.Basic

namespace LiveReload

/-! ### Chunks that do not overlap -/

/-- None of the `size` bytes from `start` on is one of the `span` bytes from `other` on. -/
def Apart (start size other span : Nat) : Prop := start + size ≤ other ∨ other + span ≤ start

theorem Apart.symm {start size other span : Nat} (apart : Apart start size other span) :
    Apart other span start size :=
  Or.symm apart

/-- What lies inside bytes that are apart is apart. -/
theorem Apart.inside {start size other span first count second number : Nat}
    (apart : Apart start size other span) (from_start : start ≤ first)
    (to_end : first + count ≤ start + size) (from_other : other ≤ second)
    (to_span : second + number ≤ other + span) : Apart first count second number := by
  unfold Apart at apart ⊢
  omega

/-- The system puts every chunk at an aligned address, away from all chunks before it. -/
structure ChunkSupply.Sound (supply : ChunkSupply) : Prop where
  aligned : ∀ request base, supply.base request = some base → chunkAlign ∣ base
  apart : ∀ request later base other, request < later → supply.base request = some base →
    supply.base later = some other → Apart base chunkSize other chunkSize

namespace ChunkSupply

theorem spaced_sound : spaced.Sound where
  aligned := by
    rintro request base answer
    rw [← Option.some.inj answer]
    exact Nat.dvd_mul_left_of_dvd ⟨256, rfl⟩ _
  apart := by
    rintro request later base other before answer further
    rw [← Option.some.inj answer, ← Option.some.inj further]
    left
    rw [← Nat.succ_mul]
    exact Nat.mul_le_mul_right _ (by omega)

variable {supply : ChunkSupply} {asked : Nat} {chunk other : Chunk}

/-- A chunk that was granted is where the system put it on one of the requests. -/
theorem exists_request (member : chunk ∈ supply.granted asked) :
    ∃ request < asked, supply.base request = some chunk.base := by
  induction asked with
  | zero => cases member
  | succ asked ih =>
    rcases mem_granted_succ.mp member with early | ⟨base, answer, rfl⟩
    · obtain ⟨request, before, same⟩ := ih early
      exact ⟨request, Nat.lt_succ_of_lt before, same⟩
    · exact ⟨asked, Nat.lt_succ_self asked, answer⟩

theorem Sound.dvd_base (sound : supply.Sound) (member : chunk ∈ supply.granted asked) :
    chunkAlign ∣ chunk.base := by
  obtain ⟨request, _, same⟩ := exists_request member
  exact sound.aligned request _ same

/-- Two chunks that were granted do not overlap. -/
theorem Sound.chunks_apart (sound : supply.Sound) (member : chunk ∈ supply.granted asked)
    (another : other ∈ supply.granted asked) (different : chunk ≠ other) :
    Apart chunk.base chunkSize other.base chunkSize := by
  induction asked with
  | zero => cases member
  | succ asked ih =>
    rcases mem_granted_succ.mp member with early | ⟨base, answer, rfl⟩ <;>
      rcases mem_granted_succ.mp another with before | ⟨last, answered, rfl⟩
    · exact ih early before
    · obtain ⟨request, earlier, same⟩ := exists_request early
      exact sound.apart request asked _ _ earlier same answered
    · obtain ⟨request, earlier, same⟩ := exists_request before
      exact (sound.apart request asked _ _ earlier same answer).symm
    · obtain rfl := Option.some.inj (answer.symm.trans answered)
      exact absurd rfl different

end ChunkSupply

/-! ### Regions in use -/

/-- Alignments are powers of two, so those up to the alignment of chunks divide it. -/
theorem Layout.dvd_chunkAlign (layout : Layout) (align : layout.align ≤ chunkAlign) :
    layout.align ∣ chunkAlign := by
  obtain ⟨power, same⟩ := layout.aligned
  have most : power ≤ 12 := by
    have below : 2 ^ power ≤ 2 ^ 12 := same ▸ align
    exact (Nat.pow_le_pow_iff_right (by decide)).mp below
  rw [same]
  exact Nat.pow_dvd_pow 2 most

/-- A region in use, with its arena and what was asked for. -/
structure Grant (Owner : Type) where
  owner : Owner
  layout : Layout
  region : Region

namespace Grant

variable {Owner : Type}

/-- The region has the size and the alignment that were asked for and ends inside its chunk. -/
structure Fits (grant : Grant Owner) : Prop where
  size : grant.region.size = grant.layout.size
  align : grant.layout.align ≤ chunkAlign
  aligned : grant.layout.align ∣ grant.region.offset
  inside : grant.region.offset + grant.region.size ≤ chunkSize

/-- In the same chunk the later region starts behind the earlier one. -/
def Behind (later earlier : Grant Owner) : Prop :=
  later.region.chunk = earlier.region.chunk →
    earlier.region.offset + earlier.region.size ≤ later.region.offset

/-- No alignment up to that of chunks is lost by starting from an aligned chunk. -/
theorem Fits.dvd_address {grant : Grant Owner} (fits : grant.Fits)
    (chunk : chunkAlign ∣ grant.region.chunk.base) :
    grant.layout.align ∣ grant.region.address :=
  Nat.dvd_add (Nat.dvd_trans (grant.layout.dvd_chunkAlign fits.align) chunk) fits.aligned

end Grant

/-- The regions in use, the last one first, lie in chunks of their arenas, each behind those before
it, and those in a head below its cursor. -/
structure Placed {Owner : Type} (arenas : Owner → Arena) (grants : List (Grant Owner)) : Prop where
  fits : ∀ grant ∈ grants, grant.Fits
  owned : ∀ grant ∈ grants, grant.region.chunk ∈ (arenas grant.owner).chunks
  below : ∀ grant ∈ grants, (arenas grant.owner).chunks.head? = some grant.region.chunk →
    grant.region.offset + grant.region.size ≤ (arenas grant.owner).cursor
  behind : grants.Pairwise Grant.Behind

namespace Placed

theorem nothing {Owner : Type} (arenas : Owner → Arena) : Placed arenas [] where
  fits := by simp
  owned := by simp
  below := by simp
  behind := List.Pairwise.nil

variable {Owner : Type} [DecidableEq Owner] {arenas : Owner → Arena}
  {grants : List (Grant Owner)} {owner : Owner} {layout : Layout}

/-- One more region, behind those of its chunk, which is the head of an arena that keeps its other
chunks. -/
theorem carved {chunk : Chunk} {chunks : List Chunk} {offset : Nat} (placed : Placed arenas grants)
    (align : layout.align ≤ chunkAlign) (aligned : layout.align ∣ offset)
    (inside : offset + layout.size ≤ chunkSize) (head : chunks.head? = some chunk)
    (kept : (arenas owner).chunks ⊆ chunks)
    (behind : ∀ grant ∈ grants, chunk = grant.region.chunk →
      grant.owner = owner ∧ grant.region.offset + grant.region.size ≤ offset) :
    Placed (Function.update arenas owner ⟨chunks, offset + layout.size⟩)
      (⟨owner, layout, ⟨chunk, offset, layout.size⟩⟩ :: grants) where
  fits := by
    rintro grant (_ | ⟨_, member⟩)
    · exact ⟨rfl, align, aligned, inside⟩
    · exact placed.fits grant member
  owned := by
    rintro grant (_ | ⟨_, member⟩)
    · rw [Function.update_self]
      exact List.mem_of_mem_head? head
    · have owned := placed.owned grant member
      by_cases same : grant.owner = owner
      · rw [same] at owned ⊢
        rw [Function.update_self]
        exact kept owned
      · rw [Function.update_of_ne same]
        exact owned
  below := by
    rintro grant (_ | ⟨_, member⟩)
    · rw [Function.update_self]
      exact fun _ => Nat.le_refl _
    · intro first
      by_cases same : grant.owner = owner
      · rw [same, Function.update_self] at first ⊢
        have above := (behind grant member (Option.some.inj (head.symm.trans first))).2
        exact Nat.le_trans above (Nat.le_add_right _ _)
      · rw [Function.update_of_ne same] at first ⊢
        exact placed.below grant member first
  behind := List.Pairwise.cons (fun grant member same => (behind grant member same).2) placed.behind

/-- **A region that is granted lies behind all others of its chunk.** It is enough that no other
arena owns a chunk of this one and that the cache hands out no chunk that an arena owns. -/
theorem reserved {cache after : ChunkCache} {region : Region} {grown : Arena}
    (placed : Placed arenas grants)
    (alone : ∀ other chunk, chunk ∈ (arenas owner).chunks → chunk ∈ (arenas other).chunks →
      other = owner)
    (unowned : ∀ chunk rest, cache.acquire = (.ok chunk, rest) →
      ∀ other, chunk ∉ (arenas other).chunks)
    (reserved : (arenas owner).reserve cache layout = (.ok region, grown, after)) :
    Placed (Function.update arenas owner grown) (⟨owner, layout, region⟩ :: grants) := by
  have ends := (arenas owner).reserve_ends cache layout
  rw [reserved] at ends
  cases ends with
  | @inHead head rest size align owned fits =>
    have first : (arenas owner).chunks.head? = some head := by rw [owned, List.head?_cons]
    refine placed.carved align (dvd_alignUp _ _) fits first (List.Subset.refl _) ?_
    intro grant member same
    have mine : grant.owner = owner :=
      alone _ head (List.mem_of_mem_head? first) (same ▸ placed.owned grant member)
    have below := placed.below grant member (by rw [mine, first, same])
    rw [mine] at below
    exact ⟨mine, Nat.le_trans below (le_alignUp layout.align_pos)⟩
  | inNew size align full acquired =>
    -- No arena owned the chunk, so no region in use lies in it.
    have start : 0 + layout.size ≤ chunkSize := by rwa [Nat.zero_add]
    refine placed.carved align (Nat.dvd_zero _) start rfl (List.subset_cons_self _ _) ?_
    intro grant member same
    exact absurd (same ▸ placed.owned grant member) (unowned _ _ acquired _)

/-- The regions of an arena that is freed are no longer in use, and all others stay. -/
theorem freed (placed : Placed arenas grants) (owner : Owner) :
    Placed (Function.update arenas owner .empty)
      (grants.filter fun grant => grant.owner ≠ owner) := by
  have others : ∀ grant ∈ grants.filter fun grant => grant.owner ≠ owner,
      grant ∈ grants ∧ Function.update arenas owner .empty grant.owner = arenas grant.owner := by
    intro grant member
    obtain ⟨before, other⟩ := List.mem_filter.mp member
    exact ⟨before, Function.update_of_ne (of_decide_eq_true other) _ _⟩
  refine ⟨?_, ?_, ?_, placed.behind.sublist List.filter_sublist⟩
  · intro grant member
    exact placed.fits grant (others grant member).1
  · intro grant member
    rw [(others grant member).2]
    exact placed.owned grant (others grant member).1
  · intro grant member
    rw [(others grant member).2]
    exact placed.below grant (others grant member).1

end Placed

end LiveReload
