/-
**Memory layouts.**

A layout is a size and an alignment. Only a power of two aligns, and no layout reaches past the
largest signed word once its size is rounded up; `Layout.of?` refuses the others.
-/
import LiveReload.Power

namespace LiveReload

/-- Where an aligned block starts at the earliest when the bytes before `offset` are taken. -/
def alignUp (offset align : Nat) : Nat :=
  (offset + align - 1) / align * align

theorem le_alignUp {offset align : Nat} (positive : 0 < align) : offset ≤ alignUp offset align := by
  have parts := Nat.div_add_mod (offset + align - 1) align
  have rest := Nat.mod_lt (offset + align - 1) positive
  rw [Nat.mul_comm] at parts
  unfold alignUp
  omega

theorem alignUp_lt {offset align : Nat} (positive : 0 < align) :
    alignUp offset align < offset + align := by
  have below := Nat.div_mul_le_self (offset + align - 1) align
  unfold alignUp
  omega

theorem dvd_alignUp (offset align : Nat) : align ∣ alignUp offset align :=
  Nat.dvd_mul_left align _

/-- No aligned block starts earlier. -/
theorem alignUp_le {offset align start : Nat} (positive : 0 < align) (behind : offset ≤ start)
    (aligned : align ∣ start) : alignUp offset align ≤ start := by
  obtain ⟨blocks, rfl⟩ := aligned
  have below : (offset + align - 1) / align * align < (blocks + 1) * align := by
    rw [Nat.succ_mul, Nat.mul_comm blocks]
    exact Nat.lt_of_lt_of_le (alignUp_lt positive) (Nat.add_le_add_right behind _)
  rw [Nat.mul_comm]
  exact Nat.mul_le_mul_right _ (Nat.le_of_lt_succ (Nat.lt_of_mul_lt_mul_right below))

/-- A size in bytes and the alignment of the first of them. -/
structure Layout where
  size : Nat
  align : Nat
  aligned : ∃ power, align = 2 ^ power
  bounded : size + align ≤ 2 ^ 63

namespace Layout

/-- A number is a power of two. -/
def isPower (n : Nat) : Bool := n ≠ 0 && 2 ^ n.log2 = n

theorem exists_of_isPower {n : Nat} (power : isPower n = true) : ∃ k, n = 2 ^ k := by
  simp only [isPower, Bool.and_eq_true, decide_eq_true_eq] at power
  exact ⟨n.log2, power.2.symm⟩

/-- The bytes of a word align. -/
theorem word_aligns : ∃ k, 8 = 2 ^ k := ⟨3, rfl⟩

/-- The layout of a size and an alignment, if they have one. -/
def of? (size align : Nat) : Option Layout :=
  if power : isPower align = true then
    if bounded : size + align ≤ 2 ^ 63 then
      some ⟨size, align, exists_of_isPower power, bounded⟩
    else none
  else none

theorem size_of_of? {size align : Nat} {layout : Layout} (fits : of? size align = some layout) :
    layout.size = size := by
  unfold of? at fits
  split at fits
  · split at fits
    · rw [← Option.some.inj fits]
    · cases fits
  · cases fits

/-- An alignment is never zero. -/
theorem align_pos (layout : Layout) : 0 < layout.align := by
  obtain ⟨power, same⟩ := layout.aligned
  rw [same]
  exact Nat.two_pow_pos power

end Layout

end LiveReload
