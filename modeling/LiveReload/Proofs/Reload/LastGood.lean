/-
**The last good generation keeps running.**

An attempt at a new generation can fail in three places: the sources do not build, the artifact does
not load, the module exports no entry point. Told from the calls to the host alone, a generation
came up where a build answered an artifact, the load of that artifact answered a module, and the
module resolves (`goodEntries`). After every sequence of reports and ticks the active entry point is
the last of these, and their number is the number of the active generation.

* `LastGood`: what the reloader keeps is what the calls tell;
* `tick_lastGood`: the calls of one tick, an attempt if one is due and then one invocation;
* `performAll_lastGood`: the invariant of every history, with what each step adds.
-/
import LiveReload.Proofs.Reload.Chronicle
import LiveReload.Proofs.Reload.Tick

namespace LiveReload

variable {W : Type}

/-! ### What the calls tell -/

/-- The entry point that came up with two calls in a row: a build that answered an artifact, and the
load of that artifact, whose module resolves. -/
def broughtUp : HostCall → HostCall → Option EntryPoint
  | .build _ (.ok artifact), .load path (.ok module) =>
    if path = artifact then (EntryPoint.resolve module).toOption else none
  | _, _ => none

/-- The entry points that came up, in order. -/
def goodEntries : List HostCall → List EntryPoint
  | first :: second :: rest => (broughtUp first second).toList ++ goodEntries (second :: rest)
  | _ => []

namespace HostCall

/-- The call is the load of an artifact. -/
def isLoad : HostCall → Bool
  | load .. => true
  | _ => false

/-- The call runs the module for a tick. -/
def isInvocation : HostCall → Bool
  | callMain .. => true
  | callUpdate .. => true
  | _ => false

/-- The call is one of those that the counters tell of. -/
def isCounted : HostCall → Bool
  | build .. | load .. | callMain .. | callUpdate .. => true
  | _ => false

theorem not_isLoad_of_uncounted {call : HostCall} (uncounted : call.isCounted = false) :
    call.isLoad = false := by
  cases call <;> first | rfl | cases uncounted

theorem not_isInvocation_of_uncounted {call : HostCall} (uncounted : call.isCounted = false) :
    call.isInvocation = false := by
  cases call <;> first | rfl | cases uncounted

/-- The call runs the module by this entry point. -/
def invokes (entry : EntryPoint) (call : HostCall) : Prop :=
  match entry, call with
  | .main address, callMain called _ _ => called = address
  | .legacy _ update, callUpdate called _ _ => called = update
  | _, _ => False

end HostCall

/-- In these calls the active entry point is invoked once, and nothing if there is none. -/
def InvokedOnce (active : Option Generation) (calls : List HostCall) : Prop :=
  match active with
  | none => calls.filter HostCall.isInvocation = []
  | some generation =>
    ∃ call, calls.filter HostCall.isInvocation = [call] ∧ call.invokes generation.entry

/-- Calls that do not begin with a load cannot complete an attempt that was begun before them. -/
def BeginsAnew (calls : List HostCall) : Prop := ∀ call ∈ calls.head?, call.isLoad = false

theorem broughtUp_of_not_load {first second : HostCall} (other : second.isLoad = false) :
    broughtUp first second = none := by
  unfold broughtUp
  split
  · cases other
  · rfl

/-- Calls that begin anew bring up what they bring up alone. -/
theorem goodEntries_append (calls : List HostCall) {more : List HostCall}
    (start : BeginsAnew more) :
    goodEntries (calls ++ more) = goodEntries calls ++ goodEntries more := by
  induction calls with
  | nil => rfl
  | cons first rest ih =>
    cases rest with
    | nil =>
      cases more with
      | nil => rfl
      | cons second others =>
        -- The only pair across the seam; its second call would have to be a load.
        have nothing : broughtUp first second = none := broughtUp_of_not_load (start second rfl)
        simp [goodEntries, nothing]
    | cons second others =>
      simp only [List.cons_append, goodEntries] at ih ⊢
      rw [ih, List.append_assoc]

/-- Calls without a load add nothing to what came up. -/
theorem goodEntries_append_of_no_load (calls : List HostCall) {more : List HostCall}
    (other : ∀ call ∈ more, call.isLoad = false) :
    goodEntries (calls ++ more) = goodEntries calls := by
  have alone : goodEntries more = [] := by
    induction more with
    | nil => rfl
    | cons first rest ih =>
      cases rest with
      | nil => rfl
      | cons second others =>
        rw [goodEntries, broughtUp_of_not_load (other second (by simp)),
          ih fun call member => other call (List.mem_cons_of_mem _ member)]
        rfl
  rw [goodEntries_append calls fun call member => other call (List.mem_of_mem_head? member), alone,
    List.append_nil]

theorem BeginsAnew.append {calls more : List HostCall} (start : BeginsAnew calls)
    (other : ∀ call ∈ more, call.isLoad = false) : BeginsAnew (calls ++ more) := by
  cases calls with
  | nil => exact fun call member => other call (List.mem_of_mem_head? member)
  | cons first rest => exact start

/-! ### The calls of a tick -/

namespace Reloader

section Calls

variable {host : Host W} {chronicle : Chronicle W}

theorem calls_of_build {input : Path} {answer : Except BuildError Path} {built : Chronicle W}
    (build : host.chronicled.build input chronicle = (answer, built)) :
    built.calls = chronicle.calls ++ [.build input answer] := by
  obtain ⟨rfl, rfl⟩ := Prod.mk.inj build
  rfl

/-- A build and the load after it. -/
theorem calls_of_load {input path : Path} {answer : Except BuildError Path}
    {found : Except LoadError Module} {built loaded : Chronicle W}
    (build : host.chronicled.build input chronicle = (answer, built))
    (load : host.chronicled.load path built = (found, loaded)) :
    loaded.calls = chronicle.calls ++ [.build input answer, .load path found] := by
  obtain ⟨rfl, rfl⟩ := Prod.mk.inj load
  simp only [Chronicle.note, calls_of_build build, List.append_assoc]
  rfl

end Calls

/-- At most an initializer is called before a generation becomes active. -/
theorem calls_of_initialize? (host : Host W) (chronicle : Chronicle W) (state : Option Nat)
    (entry : EntryPoint) :
    ∃ made, (initialize? host.chronicled state entry chronicle).2.calls = chronicle.calls ++ made ∧
      ∀ call ∈ made, call.isCounted = false := by
  cases entry with
  | main address => exact ⟨[], (List.append_nil _).symm, by simp⟩
  | legacy init update =>
    cases state with
    | some state => exact ⟨[], (List.append_nil _).symm, by simp⟩
    | none => exact ⟨_, rfl, by simp [HostCall.isCounted]⟩

/-- The calls that an attempt makes, and what they tell of its answer. -/
structure AttemptCalls (chronicle : Chronicle W)
    (answer : Except ReloadError Generation × ReloadCounts × Chronicle W)
    (made : List HostCall) : Prop where
  calls : answer.2.2.calls = chronicle.calls ++ made
  start : BeginsAnew made
  quiet : made.filter HostCall.isInvocation = []
  entries : goodEntries made = (answer.1.toOption.map Generation.entry).toList

theorem attempt_calls (host : Host W) (reloader : Reloader) (chronicle : Chronicle W) :
    ∃ made, AttemptCalls chronicle (attempt host.chronicled reloader chronicle) made := by
  have ends := attempt_ends host.chronicled reloader chronicle
  generalize attempt host.chronicled reloader chronicle = answer at ends
  cases ends with
  | @unbuilt error built build =>
    exact ⟨[.build reloader.input (.error error)], calls_of_build build,
      by simp [BeginsAnew, HostCall.isLoad], rfl, rfl⟩
  | @unloaded artifact built error loaded build load =>
    exact ⟨[.build reloader.input (.ok artifact), .load artifact (.error error)],
      calls_of_load build load, by simp [BeginsAnew, HostCall.isLoad], rfl, rfl⟩
  | @unresolved artifact built module loaded error build load resolve =>
    refine ⟨[.build reloader.input (.ok artifact), .load artifact (.ok module)],
      calls_of_load build load, by simp [BeginsAnew, HostCall.isLoad], rfl, ?_⟩
    simp [goodEntries, broughtUp, resolve, Except.toOption]
  | @up artifact built module loaded entry build load resolve =>
    refine ⟨[.build reloader.input (.ok artifact), .load artifact (.ok module)],
      calls_of_load build load, by simp [BeginsAnew, HostCall.isLoad], rfl, ?_⟩
    simp [goodEntries, broughtUp, resolve, Except.toOption]

/-- A failed attempt swaps nothing. -/
theorem swaps_of_error {host : Host W} {reloader : Reloader} {world : W} {error : ReloadError}
    {stats : ReloadCounts} {after : W}
    (failed : attempt host reloader world = (.error error, stats, after)) :
    stats.swaps = reloader.stats.swaps := by
  have ends := attempt_ends host reloader world
  rw [failed] at ends
  cases ends <;> rfl

/-- A generation that came up has the next number. -/
theorem swaps_of_ok {host : Host W} {reloader : Reloader} {world : W} {generation : Generation}
    {stats : ReloadCounts} {after : W}
    (up : attempt host reloader world = (.ok generation, stats, after)) :
    generation.number = reloader.stats.swaps + 1 ∧ stats.swaps = reloader.stats.swaps + 1 := by
  have ends := attempt_ends host reloader world
  rw [up] at ends
  cases ends
  exact ⟨rfl, rfl⟩

end Reloader

/-! ### The invariant -/

/-- What the reloader keeps is what the calls tell: the active entry point is the last one that came
up, and generations are numbered by how many came up. -/
structure LastGood (session : Session (Chronicle W)) : Prop where
  entry : session.reloader.active.map Generation.entry =
    (goodEntries session.world.calls).getLast?
  number : ∀ generation ∈ session.reloader.active,
    generation.number = (goodEntries session.world.calls).length
  swaps : session.reloader.stats.swaps = (goodEntries session.world.calls).length

namespace LastGood

variable {session : Session (Chronicle W)}

theorem fresh (session : Session W) (new : session.reloader.active = none)
    (unswapped : session.reloader.stats.swaps = 0) : LastGood session.unwritten where
  entry := by simp [Session.unwritten, new, goodEntries]
  number := by simp [Session.unwritten, new]
  swaps := unswapped

/-- The reloader is unloaded exactly as long as nothing came up. -/
theorem unloaded_iff (kept : LastGood session) :
    session.reloader.active = none ↔ goodEntries session.world.calls = [] := by
  rw [← List.getLast?_eq_none_iff, ← kept.entry, Option.map_eq_none_iff]

/-- The number of the active generation is the number of those that came up. -/
theorem generation_eq (kept : LastGood session) :
    session.reloader.generation =
      if goodEntries session.world.calls = [] then none
      else some (goodEntries session.world.calls).length := by
  unfold Reloader.generation
  by_cases nothing : goodEntries session.world.calls = []
  · rw [if_pos nothing, kept.unloaded_iff.mpr nothing]
    rfl
  · rw [if_neg nothing]
    obtain ⟨generation, active⟩ :=
      Option.ne_none_iff_exists'.mp (mt kept.unloaded_iff.mp nothing)
    rw [active, Option.map_some, kept.number generation active]

/-- Calls that bring nothing up keep the invariant of a reloader that keeps its generation. -/
theorem of_same {after : Session (Chronicle W)} (kept : LastGood session)
    (entries : goodEntries after.world.calls = goodEntries session.world.calls)
    (active : after.reloader.active = session.reloader.active)
    (swaps : after.reloader.stats.swaps = session.reloader.stats.swaps) : LastGood after where
  entry := by rw [active, entries, kept.entry]
  number := by
    rw [active, entries]
    exact kept.number
  swaps := by rw [swaps, entries, kept.swaps]

/-- One that came up keeps it when it is made the active generation. -/
theorem of_swap {after : Session (Chronicle W)} (generation : Generation) (kept : LastGood session)
    (entries : goodEntries after.world.calls =
      goodEntries session.world.calls ++ [generation.entry])
    (active : after.reloader.active = some generation)
    (number : generation.number = session.reloader.stats.swaps + 1)
    (swaps : after.reloader.stats.swaps = session.reloader.stats.swaps + 1) : LastGood after where
  entry := by simp [active, entries]
  number := by
    intro other same
    rw [active, Option.mem_some_iff] at same
    rw [← same, number, kept.swaps, entries, List.length_append, List.length_singleton]
  swaps := by rw [swaps, kept.swaps, entries, List.length_append, List.length_singleton]

end LastGood

namespace Reloader

/-- Calls are added, and with them at most one generation came up. -/
structure Adds (before after made : List HostCall) : Prop where
  calls : after = before ++ made
  entries : goodEntries after = goodEntries before ++ goodEntries made
  one : (goodEntries made).length ≤ 1

/-- The calls after an attempt that are no loads leave what the attempt brought up. -/
theorem Adds.of_attempt {before : Chronicle W}
    {answer : Except ReloadError Generation × ReloadCounts × Chronicle W}
    {made rest : List HostCall} (told : AttemptCalls before answer made)
    (other : ∀ call ∈ rest, call.isLoad = false) :
    Adds before.calls (answer.2.2.calls ++ rest) (made ++ rest) where
  calls := by rw [told.calls, List.append_assoc]
  entries := by
    rw [told.calls, List.append_assoc, goodEntries_append _ (told.start.append other)]
  one := by
    rw [goodEntries_append_of_no_load made other, told.entries]
    exact Option.length_toList_le

/-- Further calls that are no loads bring up nothing more. -/
theorem Adds.append {before after made more : List HostCall} (adds : Adds before after made)
    (other : ∀ call ∈ more, call.isLoad = false) : Adds before (after ++ more) (made ++ more) where
  calls := by rw [adds.calls, List.append_assoc]
  entries := by
    rw [goodEntries_append_of_no_load after other, goodEntries_append_of_no_load made other,
      adds.entries]
  one := by
    rw [goodEntries_append_of_no_load made other]
    exact adds.one

theorem Adds.nothing (calls : List HostCall) : Adds calls calls [] where
  calls := (List.append_nil _).symm
  entries := (List.append_nil _).symm
  one := Nat.zero_le _

/-- A reload brings up at most one generation, which is then the active one, and runs no module. -/
theorem reload_lastGood (host : Host W) {session : Session (Chronicle W)}
    (kept : LastGood session) :
    ∃ made, Adds session.world.calls (reload host.chronicled session).world.calls made ∧
      made.filter HostCall.isInvocation = [] ∧ LastGood (reload host.chronicled session) := by
  obtain ⟨made, told⟩ := attempt_calls host session.reloader session.world
  rcases result : attempt host.chronicled session.reloader session.world with
    ⟨error | generation, stats, world⟩
  · rw [result] at told
    have other : ∀ call ∈ [HostCall.record (failedRecord session.reloader.active error)],
        call.isLoad = false := by simp [HostCall.isLoad]
    have adds : Adds session.world.calls (reload host.chronicled session).world.calls
        (made ++ [.record (failedRecord session.reloader.active error)]) := by
      rw [reload_of_error result]
      exact .of_attempt told other
    refine ⟨_, adds, ?_, kept.of_same ?_ ?_ ?_⟩
    · rw [List.filter_append, told.quiet]
      rfl
    · rw [adds.entries, goodEntries_append_of_no_load made other, told.entries]
      exact List.append_nil _
    · rw [reload_of_error result]
    · rw [reload_of_error result]
      exact swaps_of_error result
  · rw [result] at told
    obtain ⟨begun, calls, silent⟩ :=
      calls_of_initialize? host world session.reloader.legacyState generation.entry
    have other : ∀ call ∈ begun ++ [HostCall.record (loadedRecord generation)],
        call.isLoad = false := by
      intro call member
      rcases List.mem_append.mp member with early | last
      · exact HostCall.not_isLoad_of_uncounted (silent call early)
      · rw [List.mem_singleton.mp last]
        rfl
    have adds : Adds session.world.calls (reload host.chronicled session).world.calls
        (made ++ (begun ++ [.record (loadedRecord generation)])) := by
      rw [reload_of_ok result]
      simp only [Host.chronicled, Chronicle.note] at calls ⊢
      rw [calls, List.append_assoc]
      exact .of_attempt told other
    obtain ⟨number, swaps⟩ := swaps_of_ok result
    refine ⟨_, adds, ?_, kept.of_swap generation ?_ ?_ number ?_⟩
    · have unheard : begun.filter HostCall.isInvocation = [] :=
        List.filter_eq_nil_iff.mpr fun call member =>
          Bool.eq_false_iff.mp (HostCall.not_isInvocation_of_uncounted (silent call member))
      rw [List.filter_append, List.filter_append, told.quiet, unheard]
      rfl
    · rw [adds.entries, goodEntries_append_of_no_load made other, told.entries]
      rfl
    · rw [reload_of_ok result]
    · rw [reload_of_ok result]
      exact swaps

theorem reloadIfDue_lastGood (host : Host W) {session : Session (Chronicle W)}
    (kept : LastGood session) :
    ∃ made, Adds session.world.calls (reloadIfDue host.chronicled session).world.calls made ∧
      made.filter HostCall.isInvocation = [] ∧
      LastGood (reloadIfDue host.chronicled session) := by
  unfold reloadIfDue
  by_cases due : (session.reloader.fresh || session.reloader.changed) = true
  · rw [if_pos due]
    -- the flags that are cleared first are not in the invariant
    have cleared : LastGood { session with
        reloader := { session.reloader with fresh := false, changed := false } } :=
      kept.of_same rfl rfl rfl
    exact reload_lastGood host cleared
  · rw [if_neg due]
    exact ⟨[], .nothing _, rfl, kept⟩

/-- An invocation runs the active entry point once, and nothing if there is none. -/
theorem invoke_calls (host : Host W) (session : Session (Chronicle W)) :
    ∃ made, (invoke host.chronicled session).2.world.calls = session.world.calls ++ made ∧
      (∀ call ∈ made, call.isLoad = false) ∧ InvokedOnce session.reloader.active made := by
  cases active : session.reloader.active with
  | none =>
    rw [invoke_of_none active]
    exact ⟨[], (List.append_nil _).symm, by simp, rfl⟩
  | some generation =>
    cases entry : generation.entry with
    | main address =>
      rw [invoke_of_main active entry]
      let answer := host.callMain address session.context session.world.world
      refine ⟨[.callMain address session.context answer.1], rfl, by simp [HostCall.isLoad], _, rfl,
        ?_⟩
      rw [entry]
      rfl
    | legacy init update =>
      rw [invoke_of_legacy active entry]
      let state := session.reloader.legacyState.getD 0
      let answer := host.callUpdate update state session.world.world
      refine ⟨[.callUpdate update state answer.1], rfl, by simp [HostCall.isLoad], _, rfl, ?_⟩
      rw [entry]
      rfl

/-- **The calls of a tick**: an attempt if one is due, and one invocation of what is active then. -/
theorem tick_lastGood (host : Host W) {session : Session (Chronicle W)}
    (kept : LastGood session) :
    ∃ made, Adds session.world.calls (tick host.chronicled session).2.world.calls made ∧
      InvokedOnce (tick host.chronicled session).2.reloader.active made ∧
      LastGood (tick host.chronicled session).2 := by
  obtain ⟨made, adds, quiet, good⟩ := reloadIfDue_lastGood host kept
  unfold tick
  dsimp only
  generalize reloadIfDue host.chronicled session = reloaded at adds good
  let called : Session (Chronicle W) :=
    { reloaded with context := reloaded.context.openTick reloaded.reloader.defaultWake }
  obtain ⟨more, calls, other, once⟩ := invoke_calls host called
  obtain ⟨active, swaps⟩ := invoke_keeps host.chronicled called
  have whole : Adds session.world.calls (invoke host.chronicled called).2.world.calls
      (made ++ more) := by
    rw [calls]
    exact adds.append other
  refine ⟨made ++ more, whole, ?_, good.of_same ?_ active swaps⟩
  · show InvokedOnce (invoke host.chronicled called).2.reloader.active (made ++ more)
    rw [active]
    unfold InvokedOnce at once ⊢
    rw [List.filter_append, quiet]
    exact once
  · show goodEntries (invoke host.chronicled called).2.world.calls = _
    rw [calls]
    exact goodEntries_append_of_no_load _ other

/-- Everything that a step does to the calls and the active generation. -/
theorem perform_lastGood (host : Host W) {session : Session (Chronicle W)}
    (kept : LastGood session) (step : LoopStep) :
    ∃ made, Adds session.world.calls (perform host.chronicled session step).world.calls made ∧
      (match step with
        | .notify => made = []
        | .tick => InvokedOnce (perform host.chronicled session step).reloader.active made) ∧
      LastGood (perform host.chronicled session step) := by
  cases step with
  | notify => exact ⟨[], .nothing _, rfl, kept.of_same rfl rfl rfl⟩
  | tick => exact tick_lastGood host kept

/-- What came up stays in the history of what came up. -/
theorem goodEntries_grow (host : Host W) {session : Session (Chronicle W)}
    (kept : LastGood session) (more : List LoopStep) :
    LastGood (performAll host.chronicled session more) ∧
      goodEntries session.world.calls <+:
        goodEntries (performAll host.chronicled session more).world.calls := by
  refine performAll_keeps (fun later => LastGood later ∧
    goodEntries session.world.calls <+: goodEntries later.world.calls) ?_ ⟨kept, ⟨[], by simp⟩⟩ more
  rintro later ⟨good, grown⟩ step
  obtain ⟨made, adds, _, stays⟩ := perform_lastGood host good step
  refine ⟨stays, grown.trans ?_⟩
  rw [adds.entries]
  exact List.prefix_append _ _

/-- **The last good generation keeps running.** After any reports and ticks, whatever the host
answers: the active entry point is the one of the last attempt that built, loaded and resolved;
there is none exactly as long as no attempt did; the number of the active generation is the number
of such attempts, never falls, and a step raises it by one or brings nothing up; and each tick calls
the entry point that is active after its attempt exactly once. -/
theorem performAll_lastGood (host : Host W) (input : Path) (wake : Span) (context : Context)
    (world : W) (steps : List LoopStep) :
    let fresh : Session W := ⟨.new input wake, context, world⟩
    let session := performAll host.chronicled fresh.unwritten steps
    let good := goodEntries session.world.calls
    session.map Chronicle.world = performAll host fresh steps ∧
      session.reloader.active.map Generation.entry = good.getLast? ∧
      (session.reloader.active = none ↔ good = []) ∧
      session.reloader.generation = (if good = [] then none else some good.length) ∧
      (∀ more, ∀ number ∈ session.reloader.generation,
        ∃ later ∈ (performAll host.chronicled session more).reloader.generation,
          number ≤ later) ∧
      ∀ step, ∃ made,
        let next := perform host.chronicled session step
        next.world.calls = session.world.calls ++ made ∧
          goodEntries next.world.calls = good ++ goodEntries made ∧
          (goodEntries made = [] ∧ next.reloader.generation = session.reloader.generation ∨
            (∃ entry, goodEntries made = [entry]) ∧
              next.reloader.generation = some (good.length + 1)) ∧
          match step with
          | .notify => made = []
          | .tick => InvokedOnce next.reloader.active made := by
  intro fresh session good
  have kept : LastGood session := (goodEntries_grow host (.fresh fresh rfl rfl) steps).1
  refine ⟨performAll_plain host fresh steps, kept.entry, kept.unloaded_iff, kept.generation_eq,
    ?_, ?_⟩
  · intro more number active
    obtain ⟨later, grown⟩ := goodEntries_grow host kept more
    rw [kept.generation_eq] at active
    by_cases nothing : goodEntries session.world.calls = []
    · rw [if_pos nothing] at active
      cases active
    · rw [if_neg nothing, Option.mem_some_iff] at active
      have something : goodEntries (performAll host.chronicled session more).world.calls ≠ [] :=
        fun empty => nothing (List.prefix_nil.mp (empty ▸ grown))
      refine ⟨_, ?_, active ▸ grown.length_le⟩
      rw [later.generation_eq, if_neg something]
      rfl
  · intro step
    obtain ⟨made, adds, called, stays⟩ := perform_lastGood host kept step
    refine ⟨made, adds.calls, adds.entries, ?_, called⟩
    rw [stays.generation_eq, kept.generation_eq, adds.entries]
    cases entries : goodEntries made with
    | nil =>
      left
      rw [List.append_nil]
      exact ⟨rfl, rfl⟩
    | cons entry rest =>
      have alone : rest = [] := by
        have one := adds.one
        rw [entries, List.length_cons] at one
        exact List.eq_nil_of_length_eq_zero (by omega)
      right
      refine ⟨⟨entry, by rw [alone]⟩, ?_⟩
      rw [alone, if_neg (by simp), List.length_append, List.length_singleton]

end Reloader

end LiveReload
