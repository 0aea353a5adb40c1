/-
**A generation is told once that it is new.**

The flag in the context is raised when a generation is swapped in, seen by the invocation of the
same tick, and lowered before the tick ends. So the first invocation of every generation sees it and
no other does, whatever modules write into their context, and however attempts fail in between.

* `Sight`, `sights`: the generation that an invocation runs and the flag that it sees;
* `atCall_reloaded_iff`: at the call the flag is up if the tick swapped a generation in;
* `OnceEach`: every generation sees the flag once, and first (`performAll_onceEach`);
* `performAll_reloaded`: this for every history, with what the next tick does.
-/
import LiveReload.Proofs.Reload.LastGood

namespace LiveReload

/-- What an invocation sees: the number of its generation, and whether that is new. -/
structure Sight where
  generation : Nat
  reloaded : Bool
deriving DecidableEq, Repr

/-- The flags that the invocations of one generation see, in order. -/
def flagsOf (number : Nat) (sights : List Sight) : List Bool :=
  (sights.filter fun sight => sight.generation = number).map Sight.reloaded

@[simp] theorem flagsOf_append (number : Nat) (sights more : List Sight) :
    flagsOf number (sights ++ more) = flagsOf number sights ++ flagsOf number more := by
  simp [flagsOf]

/-- Of `count` generations each sees the flag in its first invocation alone. -/
structure OnceEach (count : Nat) (sights : List Sight) : Prop where
  seen : ∀ number, 1 ≤ number → number ≤ count →
    ∃ later, flagsOf number sights = true :: List.replicate later false
  unseen : ∀ number, ¬ (1 ≤ number ∧ number ≤ count) → flagsOf number sights = []

namespace OnceEach

theorem nothing : OnceEach 0 [] where
  seen := by omega
  unseen _ _ := rfl

/-- The first invocation of a new generation. -/
theorem fresh {count : Nat} {sights : List Sight} (once : OnceEach count sights) :
    OnceEach (count + 1) (sights ++ [⟨count + 1, true⟩]) where
  seen := by
    intro number least most
    rw [flagsOf_append]
    by_cases new : number = count + 1
    · refine ⟨0, ?_⟩
      rw [once.unseen number (by omega), new]
      simp [flagsOf]
    · obtain ⟨later, flags⟩ := once.seen number least (by omega)
      refine ⟨later, ?_⟩
      rw [flags]
      simp [flagsOf, Ne.symm new]
  unseen := by
    intro number outside
    have other : count + 1 ≠ number := by omega
    rw [flagsOf_append, once.unseen number (by omega)]
    simp [flagsOf, other]

/-- One more invocation of the last generation. -/
theorem again {count : Nat} {sights : List Sight} (once : OnceEach count sights)
    (some : 1 ≤ count) : OnceEach count (sights ++ [⟨count, false⟩]) where
  seen := by
    intro number least most
    obtain ⟨later, flags⟩ := once.seen number least most
    rw [flagsOf_append, flags]
    by_cases last : number = count
    · refine ⟨later + 1, ?_⟩
      rw [last, List.replicate_succ']
      simp [flagsOf]
    · refine ⟨later, ?_⟩
      simp [flagsOf, Ne.symm last]
  unseen := by
    intro number outside
    have other : count ≠ number := by omega
    rw [flagsOf_append, once.unseen number outside]
    simp [flagsOf, other]

end OnceEach

namespace Reloader

variable {W : Type}

/-! ### The flag in one tick -/

/-- What the invocation of the next tick sees; without an active generation there is none. -/
def sight? (host : Host W) (session : Session W) : Option Sight :=
  let called := atCall host session
  called.reloader.active.map fun generation => ⟨generation.number, called.context.reloaded⟩

/-- What the invocation of one step sees. -/
def sightIn (host : Host W) (session : Session W) : LoopStep → List Sight
  | .notify => []
  | .tick => (sight? host session).toList

/-- What the invocations of a run see, in order. -/
def sights (host : Host W) (session : Session W) : List LoopStep → List Sight
  | [] => []
  | step :: rest => sightIn host session step ++ sights host (perform host session step) rest

/-- The flag is down after every tick. -/
theorem tick_lowers (host : Host W) (session : Session W) :
    (tick host session).2.context.reloaded = false := rfl

/-- The flag is up at the call if the tick swapped a generation in. -/
theorem atCall_reloaded_iff (host : Host W) {session : Session W}
    (down : session.context.reloaded = false) :
    (atCall host session).context.reloaded = true ↔
      (atCall host session).reloader.stats.swaps ≠ session.reloader.stats.swaps := by
  show (reloadIfDue host session).context.reloaded = true ↔
    (reloadIfDue host session).reloader.stats.swaps ≠ session.reloader.stats.swaps
  unfold reloadIfDue
  split
  · let begun : Session W :=
      { session with reloader := { session.reloader with fresh := false, changed := false } }
    show (reload host begun).context.reloaded = true ↔
      (reload host begun).reloader.stats.swaps ≠ begun.reloader.stats.swaps
    rcases result : attempt host begun.reloader begun.world with ⟨error | generation, stats, world⟩
    · rw [reload_of_error result]
      simp [begun, down, swaps_of_error result]
    · rw [reload_of_ok result]
      simp [(swaps_of_ok result).2]
  · simp [down]

/-- A main function is given the context as it is at the call. -/
theorem invoke_given (host : Host W) (session : Session (Chronicle W)) :
    ∃ made, (invoke host.chronicled session).2.world.calls = session.world.calls ++ made ∧
      ∀ address given left, .callMain address given left ∈ made → given = session.context := by
  cases active : session.reloader.active with
  | none =>
    rw [invoke_of_none active]
    exact ⟨[], (List.append_nil _).symm, by simp⟩
  | some generation =>
    cases entry : generation.entry with
    | main address =>
      rw [invoke_of_main active entry]
      refine ⟨_, rfl, fun called given left member => ?_⟩
      cases List.mem_singleton.mp member
      rfl
    | legacy init update =>
      rw [invoke_of_legacy active entry]
      exact ⟨_, rfl, by simp⟩

/-- The calls of a tick, and what they tell of the flag: it is up at the call if something came up
in this tick, and a main function is given the context with it. -/
theorem tick_reloaded (host : Host W) {session : Session (Chronicle W)} (kept : LastGood session)
    (down : session.context.reloaded = false) :
    ∃ made, Adds session.world.calls (tick host.chronicled session).2.world.calls made ∧
      ((atCall host.chronicled session).context.reloaded = true ↔ goodEntries made ≠ []) ∧
      (∀ address given left, .callMain address given left ∈ made →
        given = (atCall host.chronicled session).context) ∧
      LastGood (tick host.chronicled session).2 := by
  obtain ⟨made, adds, _, good⟩ := tick_lastGood host kept
  refine ⟨made, adds, ?_, ?_, good⟩
  · have swaps := (invoke_keeps host.chronicled (atCall host.chronicled session)).2
    have after : (atCall host.chronicled session).reloader.stats.swaps =
        session.reloader.stats.swaps + (goodEntries made).length := by
      rw [← swaps, kept.swaps, ← List.length_append, ← adds.entries]
      exact good.swaps
    rw [atCall_reloaded_iff host.chronicled down, after, Ne, Nat.add_eq_left,
      List.length_eq_zero_iff]
  · -- The calls before the invocation run no module, so a main function is called by it.
    obtain ⟨before, reloaded, quiet, _⟩ := reloadIfDue_lastGood host kept
    obtain ⟨more, calls, given⟩ := invoke_given host (atCall host.chronicled session)
    have same : session.world.calls ++ made = session.world.calls ++ (before ++ more) := by
      rw [← adds.calls, ← List.append_assoc, ← reloaded.calls]
      exact calls
    have whole : made = before ++ more := List.append_cancel_left same
    intro address context left member
    rw [whole] at member
    rcases List.mem_append.mp member with early | late
    · have none := List.filter_eq_nil_iff.mp quiet _ early
      exact absurd rfl none
    · exact given address context left late

/-- The invocation of a tick runs the last generation that came up, and sees the flag if that came
up in the same tick. -/
theorem sight_told (host : Host W) {session : Session (Chronicle W)} (kept : LastGood session)
    (down : session.context.reloaded = false) {made : List HostCall}
    (adds : Adds session.world.calls (tick host.chronicled session).2.world.calls made)
    {sight : Sight} (seen : sight? host.chronicled session = some sight) :
    sight.generation = (goodEntries (tick host.chronicled session).2.world.calls).length ∧
      (sight.reloaded = true ↔ goodEntries made ≠ []) := by
  obtain ⟨told, calls, flag, _, good⟩ := tick_reloaded host kept down
  obtain rfl : told = made := List.append_cancel_left (calls.calls.symm.trans adds.calls)
  obtain ⟨generation, active, rfl⟩ := Option.map_eq_some_iff.mp seen
  refine ⟨good.number generation ?_, flag⟩
  rw [tick_active]
  exact active

/-! ### The flag in a run -/

theorem perform_onceEach (host : Host W) {session : Session (Chronicle W)} {before : List Sight}
    (kept : LastGood session) (down : session.context.reloaded = false)
    (once : OnceEach (goodEntries session.world.calls).length before) (step : LoopStep) :
    let next := perform host.chronicled session step
    LastGood next ∧ next.context.reloaded = false ∧
      OnceEach (goodEntries next.world.calls).length
        (before ++ sightIn host.chronicled session step) := by
  cases step with
  | notify =>
    refine ⟨kept.of_same rfl rfl rfl, down, ?_⟩
    rw [sightIn, List.append_nil]
    exact once
  | tick =>
    obtain ⟨made, adds, flag, _, good⟩ := tick_reloaded host kept down
    refine ⟨good, tick_lowers _ _, ?_⟩
    have parts := congrArg List.length adds.entries
    rw [List.length_append] at parts
    have active := tick_active host.chronicled session
    show OnceEach (goodEntries (tick host.chronicled session).2.world.calls).length
      (before ++ (sight? host.chronicled session).toList)
    cases seen : sight? host.chronicled session with
    | none =>
      -- Nothing is active after the tick, so nothing ever came up.
      have empty : goodEntries (tick host.chronicled session).2.world.calls = [] :=
        good.unloaded_iff.mp (active.trans (Option.map_eq_none_iff.mp seen))
      rw [empty, List.length_nil] at parts ⊢
      rw [Option.toList_none, List.append_nil]
      rwa [show (goodEntries session.world.calls).length = 0 by omega] at once
    | some sight =>
      obtain ⟨number, reloaded⟩ := sight_told host kept down adds seen
      obtain ⟨generation, running, _⟩ := Option.map_eq_some_iff.mp seen
      have loaded : goodEntries (tick host.chronicled session).2.world.calls ≠ [] := by
        intro empty
        have none := active.symm.trans (good.unloaded_iff.mpr empty)
        rw [running] at none
        cases none
      have least := List.length_pos_iff.mpr loaded
      by_cases nothing : goodEntries made = []
      · rw [nothing, List.length_nil, Nat.add_zero] at parts
        have low : sight.reloaded = false := by simp [reloaded, nothing, ← Bool.not_eq_true]
        rw [parts] at number least ⊢
        have same : sight = ⟨(goodEntries session.world.calls).length, false⟩ := by
          rw [← number, ← low]
        rw [same]
        exact once.again least
      · have one : (goodEntries made).length = 1 :=
          Nat.le_antisymm adds.one (List.length_pos_iff.mpr nothing)
        rw [one] at parts
        rw [parts] at number ⊢
        have same : sight = ⟨(goodEntries session.world.calls).length + 1, true⟩ := by
          rw [← number, ← reloaded.mpr nothing]
        rw [same]
        exact once.fresh

theorem performAll_onceEach (host : Host W) {session : Session (Chronicle W)} {before : List Sight}
    (kept : LastGood session) (down : session.context.reloaded = false)
    (once : OnceEach (goodEntries session.world.calls).length before) (steps : List LoopStep) :
    let later := performAll host.chronicled session steps
    LastGood later ∧ later.context.reloaded = false ∧
      OnceEach (goodEntries later.world.calls).length
        (before ++ sights host.chronicled session steps) := by
  induction steps generalizing session before with
  | nil =>
    refine ⟨kept, down, ?_⟩
    rw [sights, List.append_nil]
    exact once
  | cons step rest ih =>
    obtain ⟨good, low, more⟩ := perform_onceEach host kept down once step
    rw [sights, ← List.append_assoc]
    exact ih good low more

/-- **A generation is told once that it is new.** After any reports and ticks on a fresh reloader
and context, whatever the host and the modules do: the flag is down; the invocations of each
generation that came up saw it up in the first of them and down in all others; and the invocation of
the next tick, which is given the context at the call if it is of a main function, runs the last
generation that came up and sees the flag exactly if that comes up in this tick, after which the
flag is down again. -/
theorem performAll_reloaded (host : Host W) (input : Path) (wake : Span) (args : List String)
    (seed : UInt64) (output : Output) (supply : ChunkSupply) (world : W) (steps : List LoopStep) :
    let fresh : Session W := ⟨.new input wake, .new args seed output supply, world⟩
    let session := performAll host.chronicled fresh.unwritten steps
    let seen := sights host.chronicled fresh.unwritten steps
    let good := goodEntries session.world.calls
    session.map Chronicle.world = performAll host fresh steps ∧
      session.context.reloaded = false ∧
      (∀ number, 1 ≤ number → number ≤ good.length →
        ∃ later, flagsOf number seen = true :: List.replicate later false) ∧
      (∀ number, ¬ (1 ≤ number ∧ number ≤ good.length) → flagsOf number seen = []) ∧
      let next := (tick host.chronicled session).2
      next.context.reloaded = false ∧
        ∃ made, next.world.calls = session.world.calls ++ made ∧
          goodEntries next.world.calls = good ++ goodEntries made ∧
          (∀ sight ∈ sight? host.chronicled session,
            sight.generation = (goodEntries next.world.calls).length ∧
              (sight.reloaded = true ↔ goodEntries made ≠ [])) ∧
          ∀ address given left, .callMain address given left ∈ made →
            given = (atCall host.chronicled session).context ∧
              (given.reloaded = true ↔ goodEntries made ≠ []) := by
  intro fresh session seen good
  obtain ⟨kept, down, once⟩ := performAll_onceEach host (.fresh fresh rfl rfl)
    (rfl : fresh.unwritten.context.reloaded = false) .nothing steps
  obtain ⟨made, adds, flag, given, _⟩ := tick_reloaded host kept down
  refine ⟨performAll_plain host fresh steps, down, once.seen, once.unseen, rfl, made, adds.calls,
    adds.entries, ?_, ?_⟩
  · exact fun sight told => sight_told host kept down adds told
  · intro address context left called
    rw [given address context left called]
    exact ⟨rfl, flag⟩

end Reloader

end LiveReload
