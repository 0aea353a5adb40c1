/-
**The schedule of frames in closed form.**

A pacer keeps one instant, when the next frame is due. A frame ends its length after it was due. If
it is closed by then, the next frame is due at that end, however early it was closed; if it is
closed later, the next frame is due at once. Over many frames, whose lengths may differ and whose
instants come in any order, these are the sums and maxima below.

* `Frame.due`: when the next frame is due, told from the frames alone;
* `FramePacer.close_eq`: what one call answers and leaves;
* `FramePacer.After`: a pacer after some frames keeps the schedule, one more call at a time;
* `Frame.due_of_constant`: frames of one length are due at the greatest of the ends counted from
  each of them;
* `FramePacer.close_keeps_schedule`: every call of every sequence.
-/
import LiveReload.FramePacer
import Mathlib.Data.Finset.Lattice.Fold
import Mathlib.Order.Interval.Finset.Nat
import Mathlib.Order.Lattice.Nat

namespace LiveReload

/-- A frame as it is closed: its length, and when that is. -/
structure Frame where
  length : Span
  closed : Instant
deriving DecidableEq, Repr

/-! ### The schedule -/

namespace Frame

/-- When the frame after frame `n` is due. -/
def due (frames : Nat → Frame) : Nat → Nat
  | 0 => (frames 0).closed.nanos + (frames 0).length.nanos
  | n + 1 => max (frames (n + 1)).closed.nanos (due frames n + (frames (n + 1)).length.nanos)

/-- The sum that gives the end of frame `n`. The first frame starts when it is closed. -/
def ending (frames : Nat → Frame) : Nat → Nat
  | 0 => (frames 0).closed.nanos + (frames 0).length.nanos
  | n + 1 => due frames n + (frames (n + 1)).length.nanos

/-- Frame `n` is closed after its end. -/
def isLate (frames : Nat → Frame) : Nat → Bool
  | 0 => false
  | n + 1 => due frames n + (frames (n + 1)).length.nanos < (frames (n + 1)).closed.nanos

/-- How many frames up to frame `n` are late. -/
def lates (frames : Nat → Frame) (n : Nat) : Nat :=
  (List.range (n + 1)).countP (isLate frames)

variable (frames : Nat → Frame)

theorem lates_succ (n : Nat) :
    lates frames (n + 1) = lates frames n + (isLate frames (n + 1)).toNat := by
  unfold lates
  rw [List.range_succ, List.countP_append, List.countP_singleton]
  cases isLate frames (n + 1) <;> rfl

/-- The first frame is as every other: due when it is closed or at its end. -/
theorem due_eq_max (n : Nat) :
    due frames n = max (frames n).closed.nanos (ending frames n) := by
  cases n with
  | zero => exact (Nat.max_eq_right (Nat.le_add_right _ _)).symm
  | succ n => rfl

theorem isLate_eq (n : Nat) :
    isLate frames n = decide (ending frames n < (frames n).closed.nanos) := by
  cases n with
  | zero => exact (decide_eq_false (Nat.not_lt.mpr (Nat.le_add_right _ _))).symm
  | succ n => rfl

theorem closed_le_due (n : Nat) : (frames n).closed.nanos ≤ due frames n := by
  rw [due_eq_max]
  exact Nat.le_max_left _ _

/-- Without a late frame nothing but the ends counts. -/
theorem due_of_not_late {n : Nat} (intime : isLate frames n = false) :
    due frames n = ending frames n := by
  rw [isLate_eq, decide_eq_false_iff_not] at intime
  rw [due_eq_max]
  exact Nat.max_eq_right (Nat.not_lt.mp intime)

/-! ### Frames of one length -/

section Constant

variable {frames : Nat → Frame} {dt n : Nat}

theorem due_zero_of_constant (constant : ∀ k ≤ n, (frames k).length = ⟨dt⟩) :
    due frames 0 = (frames 0).closed.nanos + (0 + 1) * dt := by
  rw [due, constant 0 (Nat.zero_le n), Nat.zero_add, Nat.one_mul]

theorem due_succ_of_constant (constant : ∀ k ≤ n + 1, (frames k).length = ⟨dt⟩) :
    due frames (n + 1) = max (frames (n + 1)).closed.nanos (due frames n + dt) := by
  rw [due, constant (n + 1) le_rfl]

/-- Each frame keeps the next ones from being due earlier than its length after it. -/
theorem closed_add_le_due (constant : ∀ k ≤ n, (frames k).length = ⟨dt⟩) {k : Nat}
    (within : k ≤ n) : (frames k).closed.nanos + (n - k) * dt ≤ due frames n := by
  induction n with
  | zero =>
    rw [Nat.le_zero.mp within, Nat.sub_self, Nat.zero_mul]
    exact closed_le_due frames 0
  | succ n ih =>
    rcases Nat.le_or_eq_of_le_succ within with earlier | rfl
    · have before := ih (fun k within => constant k (Nat.le_succ_of_le within)) earlier
      rw [due_succ_of_constant constant, Nat.succ_sub earlier, Nat.succ_mul]
      omega
    · rw [Nat.sub_self, Nat.zero_mul]
      exact closed_le_due frames (n + 1)

/-- The first frame ends a length after it was closed, so it counts for one length more. -/
theorem first_add_le_due (constant : ∀ k ≤ n, (frames k).length = ⟨dt⟩) :
    (frames 0).closed.nanos + (n + 1) * dt ≤ due frames n := by
  induction n with
  | zero => exact (due_zero_of_constant constant).ge
  | succ n ih =>
    have before := ih fun k within => constant k (Nat.le_succ_of_le within)
    rw [due_succ_of_constant constant, Nat.succ_mul]
    omega

/-- The next frame is due at one of the ends that are counted from the frames. -/
theorem due_attained (constant : ∀ k ≤ n, (frames k).length = ⟨dt⟩) :
    due frames n = (frames 0).closed.nanos + (n + 1) * dt ∨
      ∃ k, 1 ≤ k ∧ k ≤ n ∧ due frames n = (frames k).closed.nanos + (n - k) * dt := by
  induction n with
  | zero => exact .inl (due_zero_of_constant constant)
  | succ n ih =>
    have before := ih fun k within => constant k (Nat.le_succ_of_le within)
    rw [due_succ_of_constant constant]
    rcases Nat.le_total (due frames n + dt) (frames (n + 1)).closed.nanos with late | intime
    · refine .inr ⟨n + 1, Nat.succ_pos n, le_rfl, ?_⟩
      rw [Nat.max_eq_left late, Nat.sub_self, Nat.zero_mul]
      rfl
    · rw [Nat.max_eq_right intime]
      rcases before with first | ⟨k, positive, within, other⟩
      · refine .inl ?_
        rw [first, Nat.succ_mul (n + 1), Nat.add_assoc]
      · refine .inr ⟨k, positive, Nat.le_succ_of_le within, ?_⟩
        rw [other, Nat.succ_sub within, Nat.succ_mul, Nat.add_assoc]

/-- **Frames of one length** are due at the greatest of the ends counted from each of them. -/
theorem due_of_constant (constant : ∀ k ≤ n, (frames k).length = ⟨dt⟩) :
    due frames n =
      max ((frames 0).closed.nanos + (n + 1) * dt)
        ((Finset.Icc 1 n).sup fun k => (frames k).closed.nanos + (n - k) * dt) := by
  refine Nat.le_antisymm ?_ (Nat.max_le.mpr ⟨first_add_le_due constant, ?_⟩)
  · rcases due_attained constant with first | ⟨k, positive, within, other⟩
    · exact first.trans_le (Nat.le_max_left _ _)
    · have member : k ∈ Finset.Icc 1 n := Finset.mem_Icc.mpr ⟨positive, within⟩
      have below := Finset.le_sup (f := fun k => (frames k).closed.nanos + (n - k) * dt) member
      exact (other.trans_le below).trans (Nat.le_max_right _ _)
  · exact Finset.sup_le fun k member => closed_add_le_due constant (Finset.mem_Icc.mp member).2

/-- Without a late frame, frames of one length do not drift. -/
theorem due_of_punctual (constant : ∀ k ≤ n, (frames k).length = ⟨dt⟩)
    (punctual : lates frames n = 0) :
    due frames n = (frames 0).closed.nanos + (n + 1) * dt := by
  induction n with
  | zero => exact due_zero_of_constant constant
  | succ n ih =>
    rw [lates_succ, Nat.add_eq_zero_iff] at punctual
    have before := ih (fun k within => constant k (Nat.le_succ_of_le within)) punctual.1
    have intime : isLate frames (n + 1) = false := by
      cases late : isLate frames (n + 1) with
      | false => rfl
      | true =>
        rw [late] at punctual
        cases punctual.2
    rw [due_of_not_late frames intime, ending, constant (n + 1) le_rfl, before,
      Nat.succ_mul (n + 1), Nat.add_assoc]

end Constant

end Frame

/-! ### The pacer -/

namespace FramePacer

open LiveReload.Frame (due ending isLate lates)

/-- Closes a frame of a length of its own. -/
def close (pacer : FramePacer) (frame : Frame) : Except Crash Span × FramePacer :=
  { pacer with length := frame.length }.advance frame.closed

/-- The pacer after the first `count` frames. -/
def closeFirst (pacer : FramePacer) (frames : Nat → Frame) : Nat → FramePacer
  | 0 => pacer
  | count + 1 => ((closeFirst pacer frames count).close (frames count)).2

/-- **One call.** A frame that started at `start` ends its length later; the next is due then, or at
once if it is later than that. -/
theorem close_eq {pacer : FramePacer} {frame : Frame} {start : Nat}
    (started : pacer.next.getD frame.closed = ⟨start⟩)
    (reachable : start + frame.length.nanos < Instant.limit)
    (countable : pacer.skips +
      (decide (start + frame.length.nanos < frame.closed.nanos)).toNat < skipLimit) :
    let next := max frame.closed.nanos (start + frame.length.nanos)
    pacer.close frame =
      (.ok ⟨next - frame.closed.nanos⟩,
        { length := frame.length
          next := some ⟨next⟩
          skips := pacer.skips +
            (decide (start + frame.length.nanos < frame.closed.nanos)).toNat }) := by
  intro next
  have reached : (Instant.mk start).after frame.length = .ok ⟨start + frame.length.nanos⟩ :=
    Instant.after_eq_ok_iff.mpr ⟨reachable, rfl⟩
  unfold close advance
  dsimp only
  rw [started, reached]
  dsimp only
  by_cases late : start + frame.length.nanos < frame.closed.nanos
  · rw [decide_eq_true late, Bool.toNat_true] at countable
    have here : next = frame.closed.nanos := Nat.max_eq_left late.le
    rw [if_pos late, skip, if_neg (Nat.not_le.mpr countable), decide_eq_true late, here,
      Nat.sub_self]
    rfl
  · have here : next = start + frame.length.nanos := Nat.max_eq_right (Nat.not_lt.mp late)
    rw [if_neg late, decide_eq_false late, here]
    rfl

/-- A pacer after frame `n` keeps the schedule: when the next frame is due, and how many were
late. -/
structure After (frames : Nat → Frame) (n : Nat) (pacer : FramePacer) : Prop where
  next : pacer.next = some ⟨due frames n⟩
  skips : pacer.skips = lates frames n

section Run

variable {frames : Nat → Frame} {pacer : FramePacer} {n : Nat}

/-- The call for frame `n`, if the pacer takes this frame to end when the schedule does. -/
theorem After.close {start skips : Nat} (started : pacer.next.getD (frames n).closed = ⟨start⟩)
    (ends : start + (frames n).length.nanos = ending frames n) (skipped : pacer.skips = skips)
    (counts : skips + (isLate frames n).toNat = lates frames n)
    (reachable : ending frames n < Instant.limit) (countable : lates frames n < skipLimit) :
    (pacer.close (frames n)).1 = .ok ⟨due frames n - (frames n).closed.nanos⟩ ∧
      After frames n (pacer.close (frames n)).2 := by
  rw [Frame.isLate_eq, ← ends, ← skipped] at counts
  rw [← ends] at reachable
  rw [← counts] at countable
  have due_eq := Frame.due_eq_max frames n
  rw [← ends] at due_eq
  rw [close_eq started reachable countable, due_eq]
  exact ⟨rfl, congrArg (fun next => some (Instant.mk next)) due_eq.symm, counts⟩

/-- Every call of a sequence answers by the schedule and keeps it. -/
theorem closeFirst_after (length : Span) (frames : Nat → Frame) (n : Nat)
    (reachable : ∀ k ≤ n, ending frames k < Instant.limit)
    (countable : lates frames n < skipLimit) :
    let closed := ((new length).closeFirst frames n).close (frames n)
    closed.1 = .ok ⟨due frames n - (frames n).closed.nanos⟩ ∧ After frames n closed.2 := by
  induction n with
  | zero => exact After.close rfl rfl rfl rfl (reachable 0 le_rfl) countable
  | succ n ih =>
    have counts := Frame.lates_succ frames n
    have before : After frames n ((new length).closeFirst frames (n + 1)) :=
      (ih (fun k within => reachable k (Nat.le_succ_of_le within)) (by omega)).2
    have started : ((new length).closeFirst frames (n + 1)).next.getD (frames (n + 1)).closed =
        ⟨due frames n⟩ := by
      rw [before.next]
      rfl
    exact After.close started rfl before.skips counts.symm (reachable (n + 1) le_rfl) countable

end Run

/-- **The schedule of frames.** Let a new pacer be asked about any frames, of any lengths and at
instants in any order, such that the clock reaches the end of each and fewer are late than are
counted. The call for frame `n` answers the time until the next frame is due, which is not before
the call; that is what the pacer keeps, with the number of frames that were late up to then. If all
frames have one length, the next is due at the greatest of the ends counted from each frame, and if
none was late, at the first call and one length for each frame since, without any drift. -/
theorem close_keeps_schedule (length : Span) (frames : Nat → Frame) (n : Nat)
    (reachable : ∀ k ≤ n, ending frames k < Instant.limit)
    (countable : lates frames n < skipLimit) :
    let closed := ((new length).closeFirst frames n).close (frames n)
    (frames n).closed.nanos ≤ due frames n ∧
      closed.1 = .ok ⟨due frames n - (frames n).closed.nanos⟩ ∧
      closed.2.next = some ⟨due frames n⟩ ∧ closed.2.skips = lates frames n ∧
      ∀ dt, (∀ k ≤ n, (frames k).length = ⟨dt⟩) →
        due frames n =
          max ((frames 0).closed.nanos + (n + 1) * dt)
            ((Finset.Icc 1 n).sup fun k => (frames k).closed.nanos + (n - k) * dt) ∧
        (lates frames n = 0 → due frames n = (frames 0).closed.nanos + (n + 1) * dt) := by
  intro closed
  obtain ⟨answer, after⟩ := closeFirst_after length frames n reachable countable
  exact ⟨Frame.closed_le_due frames n, answer, after.next, after.skips, fun dt constant =>
    ⟨Frame.due_of_constant constant, Frame.due_of_punctual constant⟩⟩

/-- Four frames of ten milliseconds: the second is closed early, the third late, and the last early
again. -/
def restarting : Nat → Frame
  | 0 => ⟨.ofMillis 10, ⟨0⟩⟩
  | 1 => ⟨.ofMillis 10, ⟨4000000⟩⟩
  | 2 => ⟨.ofMillis 10, ⟨45000000⟩⟩
  | _ => ⟨.ofMillis 10, ⟨46000000⟩⟩

/-- The last frame is due ten milliseconds after the late one. -/
theorem close_keeps_schedule_restarting :
    let closed := ((new .zero).closeFirst restarting 3).close (restarting 3)
    (∀ k ≤ 3, ending restarting k < Instant.limit) ∧ lates restarting 3 < skipLimit ∧
      (∀ k ≤ 3, (restarting k).length = ⟨10000000⟩) ∧ lates restarting 2 = 1 ∧
      closed.1 = .ok ⟨9000000⟩ ∧ closed.2.next = some ⟨55000000⟩ ∧ closed.2.skips = 1 := by
  intro closed
  have reachable : ∀ k ≤ 3, ending restarting k < Instant.limit := by decide
  have countable : lates restarting 3 < skipLimit := by decide
  have constant : ∀ k ≤ 3, (restarting k).length = ⟨10000000⟩ := by decide
  obtain ⟨-, answer, next, skips, -⟩ :=
    close_keeps_schedule .zero restarting 3 reachable countable
  have due_eq : due restarting 3 = 55000000 := by decide
  rw [due_eq] at answer next
  exact ⟨reachable, countable, constant, by decide, answer, next, skips⟩

end FramePacer

end LiveReload
