/-
**A module is initialized once and for all.**

A module of the second contract has an initializer and an update function that share one word of
state. Over the life of a reloader one initializer is called at most: the one of the first
generation that has any, when that generation comes up. Every update after that is given what this
call answered, which may be null, whichever generations came up in between.

* `initsIn`, `firstInit?`: the initializers that were called, and the first one that came up;
* `StartsFirst`: the place of the call, between the load of its generation and the record of it;
* `Contracted`: what holds of the calls of every history, kept by a reload (`reload_initialized`)
  and by an invocation (`invoke_initialized`);
* `performAll_initializes_once`: the law for every history.
-/
import LiveReload.Proofs.Reload.FailedReload

namespace LiveReload

variable {W : Type}

/-! ### What the calls tell -/

/-- The initializers that were called, with what they answered, in order. -/
def initsIn (calls : List HostCall) : List (Address × Nat) :=
  calls.filterMap fun
    | .callInit address answer => some (address, answer)
    | _ => none

/-- The initializer of an entry point. -/
def EntryPoint.init? : EntryPoint → Option Address
  | main _ => none
  | legacy init _ => some init

/-- The initializer of the first entry point that has one. -/
def firstInit? (entries : List EntryPoint) : Option Address := entries.findSome? EntryPoint.init?

/-- The call belongs to the contract of initializers and updates. -/
def HostCall.isLegacy : HostCall → Bool
  | callInit .. => true
  | callUpdate .. => true
  | _ => false

theorem initsIn_append (calls more : List HostCall) :
    initsIn (calls ++ more) = initsIn calls ++ initsIn more :=
  List.filterMap_append ..

theorem firstInit?_append (entries more : List EntryPoint) :
    firstInit? (entries ++ more) = (firstInit? entries).or (firstInit? more) :=
  List.findSome?_append

theorem initsIn_of_quiet {calls : List HostCall} (quiet : ∀ call ∈ calls, call.isLegacy = false) :
    initsIn calls = [] := by
  refine List.filterMap_eq_nil_iff.mpr fun call member => ?_
  cases call with
  | callInit address answer => cases quiet _ member
  | _ => rfl

/-- An initializer is called right after the load of the module that it belongs to, and right before
the record that this generation is loaded; no generation before has an initializer. -/
def StartsFirst (before : List HostCall) (init : Address) (after : List HostCall) : Prop :=
  ∃ earlier input artifact module update rest,
    before = earlier ++ [.build input (.ok artifact), .load artifact (.ok module)] ∧
      EntryPoint.resolve module = .ok (.legacy init update) ∧
      firstInit? (goodEntries earlier) = none ∧
      after = .record (Reloader.loadedRecord
        ⟨.legacy init update, (goodEntries earlier).length + 1, module.path⟩) :: rest

theorem StartsFirst.append {before after : List HostCall} {init : Address}
    (starts : StartsFirst before init after) (more : List HostCall) :
    StartsFirst before init (after ++ more) := by
  obtain ⟨earlier, input, artifact, module, update, rest, loaded, resolve, first, rfl⟩ := starts
  exact ⟨earlier, input, artifact, module, update, rest ++ more, loaded, resolve, first, rfl⟩

/-! ### The invariant -/

/-- What holds of the calls of every history: the first initializer that came up was called, once,
and each update was given what it had answered. -/
structure Contracted (calls : List HostCall) : Prop where
  once : (initsIn calls).map Prod.fst = (firstInit? (goodEntries calls)).toList
  starts : ∀ before init state after, calls = before ++ .callInit init state :: after →
    StartsFirst before init after
  given : ∀ before update state answer after,
    calls = before ++ .callUpdate update state answer :: after →
      ∃ init, initsIn before = [(init, state)]

namespace Contracted

variable {calls : List HostCall}

theorem nothing : Contracted [] where
  once := rfl
  starts := by simp
  given := by simp

/-- Of further calls only those among themselves have to be looked at. -/
theorem append (kept : Contracted calls) {made : List HostCall}
    (once : (initsIn (calls ++ made)).map Prod.fst =
      (firstInit? (goodEntries (calls ++ made))).toList)
    (starts : ∀ before init state after, made = before ++ .callInit init state :: after →
      StartsFirst (calls ++ before) init after)
    (given : ∀ before update state answer after,
      made = before ++ .callUpdate update state answer :: after →
        ∃ init, initsIn (calls ++ before) = [(init, state)]) :
    Contracted (calls ++ made) where
  once := once
  starts := by
    intro before init state after whole
    rcases split_append whole with ⟨between, rfl, late⟩ | ⟨between, early, rfl⟩
    · exact starts between init state after late
    · exact (kept.starts before init state between early).append made
  given := by
    intro before update state answer after whole
    rcases split_append whole with ⟨between, rfl, late⟩ | ⟨between, early, rfl⟩
    · exact given between update state answer after late
    · exact kept.given before update state answer between early

/-- Calls outside the contract keep it, if the first initializer stays the first. -/
theorem append_quiet (kept : Contracted calls) {made : List HostCall}
    (quiet : ∀ call ∈ made, call.isLegacy = false)
    (first : firstInit? (goodEntries (calls ++ made)) = firstInit? (goodEntries calls)) :
    Contracted (calls ++ made) := by
  refine kept.append ?_ ?_ ?_
  · rw [initsIn_append, initsIn_of_quiet quiet, List.append_nil, first, kept.once]
  · rintro before init state after rfl
    cases quiet (.callInit init state) (by simp)
  · rintro before update state answer after rfl
    cases quiet (.callUpdate update state answer) (by simp)

/-- An update keeps it that is given what the one initializer answered. -/
theorem append_update (kept : Contracted calls) {init : Address} {state : Nat}
    (inits : initsIn calls = [(init, state)]) (update : Address) (answer : UInt32) :
    Contracted (calls ++ [.callUpdate update state answer]) := by
  refine kept.append ?_ ?_ ?_
  · rw [initsIn_append, goodEntries_append_of_no_load _ (by simp [HostCall.isLoad]), ← kept.once]
    exact congrArg (List.map Prod.fst) (List.append_nil _)
  · intro before called told after place
    have member : HostCall.callInit called told ∈ [HostCall.callUpdate update state answer] := by
      rw [place]
      simp
    simp at member
  · intro before called given answered after place
    cases before with
    | nil =>
      obtain ⟨same, _⟩ := List.cons.inj place
      obtain ⟨_, rfl, _⟩ := HostCall.callUpdate.inj same
      exact ⟨init, by rw [List.append_nil, inits]⟩
    | cons other others => exact absurd (List.cons.inj place).2 (by simp)

end Contracted

/-- The calls keep the contract, and the reloader keeps what the initializer answered. -/
structure Initialized (session : Session (Chronicle W)) : Prop where
  good : LastGood session
  contract : Contracted session.world.calls
  state : session.reloader.legacyState = (initsIn session.world.calls).head?.map Prod.snd

namespace Initialized

variable {session : Session (Chronicle W)}

theorem uncalled_iff (kept : Initialized session) :
    session.reloader.legacyState = none ↔
      firstInit? (goodEntries session.world.calls) = none := by
  have once := kept.contract.once
  rw [kept.state]
  cases inits : initsIn session.world.calls with
  | nil =>
    rw [inits] at once
    simp [← Option.toList_eq_nil_iff, ← once]
  | cons call rest =>
    rw [inits] at once
    have some : (firstInit? (goodEntries session.world.calls)).toList ≠ [] := by simp [← once]
    simpa using some

/-- With an active update function an initializer was called, and the reloader has its answer. -/
theorem called (kept : Initialized session) {generation : Generation} {init update : Address}
    (active : session.reloader.active = some generation)
    (entry : generation.entry = .legacy init update) :
    ∃ first state, initsIn session.world.calls = [(first, state)] ∧
      session.reloader.legacyState = some state := by
  have last := kept.good.entry
  rw [active, Option.map_some, entry] at last
  have member := List.mem_of_getLast? last.symm
  have once := kept.contract.once
  cases found : firstInit? (goodEntries session.world.calls) with
  | none => cases List.findSome?_eq_none_iff.mp found _ member
  | some first =>
    rw [found, Option.toList_some] at once
    obtain ⟨⟨address, state⟩, inits, _⟩ := List.map_eq_singleton_iff.mp once
    refine ⟨address, state, inits, ?_⟩
    rw [kept.state, inits]
    rfl

end Initialized

namespace Reloader

/-- The calls of an attempt that succeeded. -/
theorem calls_of_up {host : Host W} {reloader : Reloader} {chronicle after : Chronicle W}
    {generation : Generation} {stats : ReloadCounts}
    (up : attempt host.chronicled reloader chronicle = (.ok generation, stats, after)) :
    ∃ artifact module, EntryPoint.resolve module = .ok generation.entry ∧
      generation.path = module.path ∧
      after.calls = chronicle.calls ++
        [.build reloader.input (.ok artifact), .load artifact (.ok module)] := by
  have ends := attempt_ends host.chronicled reloader chronicle
  rw [up] at ends
  cases ends with
  | @up artifact built module loaded entry build load resolve =>
    exact ⟨artifact, module, resolve, rfl, calls_of_load build load⟩

theorem goodEntries_of_attempt (host : Host W) (reloader : Reloader) (chronicle : Chronicle W) :
    goodEntries (attempt host.chronicled reloader chronicle).2.2.calls =
      goodEntries chronicle.calls ++
        ((attempt host.chronicled reloader chronicle).1.toOption.map Generation.entry).toList := by
  obtain ⟨made, told⟩ := attempt_calls host reloader chronicle
  rw [told.calls, goodEntries_append _ told.start, told.entries]

section Reload

variable {host : Host W} {session : Session (Chronicle W)} {stats : ReloadCounts}
  {after : Chronicle W}

/-- A reload that fails calls neither initializers nor updates. -/
theorem reload_failed_initialized (kept : Initialized session) {error : ReloadError}
    (failed : attempt host.chronicled session.reloader session.world =
      (.error error, stats, after)) : Initialized (reload host.chronicled session) := by
  obtain ⟨_, _, _, good⟩ := reload_lastGood host kept.good
  obtain ⟨tried, calls, quiet⟩ := calls_of_attempt host session.reloader session.world
  have entries := goodEntries_of_attempt host session.reloader session.world
  rw [failed] at calls entries
  let record := HostCall.record (failedRecord session.reloader.active error)
  have whole : (reload host.chronicled session).world.calls =
      session.world.calls ++ (tried ++ [record]) := by
    rw [reload_of_error failed, ← List.append_assoc, ← calls]
    rfl
  have outside : ∀ call ∈ tried ++ [record], call.isLegacy = false := by
    intro call member
    rcases List.mem_append.mp member with early | last
    · have entered := quiet call early
      cases call <;> first | rfl | cases entered
    · rw [List.mem_singleton.mp last]
      rfl
  refine ⟨good, ?_, ?_⟩
  · rw [whole]
    refine kept.contract.append_quiet outside ?_
    rw [← List.append_assoc, ← calls, goodEntries_append_of_no_load _ (by simp [record,
      HostCall.isLoad]), entries]
    exact congrArg firstInit? (List.append_nil _)
  · rw [whole, initsIn_append, initsIn_of_quiet outside, List.append_nil, ← kept.state,
      reload_of_error failed]

/-- The calls of a reload that brings a generation up, apart from those of its start. -/
theorem calls_of_reload {generation : Generation}
    (up : attempt host.chronicled session.reloader session.world =
      (.ok generation, stats, after)) (started : List HostCall)
    (starts : (initialize? host.chronicled session.reloader.legacyState generation.entry
      after).2.calls = after.calls ++ started) (other : ∀ call ∈ started, call.isLoad = false) :
    ∃ artifact module, EntryPoint.resolve module = .ok generation.entry ∧
      generation.path = module.path ∧
      (reload host.chronicled session).world.calls = session.world.calls ++
        ([.build session.reloader.input (.ok artifact), .load artifact (.ok module)] ++
          (started ++ [.record (loadedRecord generation)])) ∧
      goodEntries (reload host.chronicled session).world.calls =
        goodEntries session.world.calls ++ [generation.entry] := by
  obtain ⟨artifact, module, resolve, path, calls⟩ := calls_of_up up
  have entries := goodEntries_of_attempt host session.reloader session.world
  rw [up] at entries
  have whole : (reload host.chronicled session).world.calls =
      after.calls ++ (started ++ [.record (loadedRecord generation)]) := by
    rw [reload_of_ok up, ← List.append_assoc, ← starts]
    rfl
  refine ⟨artifact, module, resolve, path, ?_, ?_⟩
  · rw [whole, calls, List.append_assoc]
  · rw [whole, goodEntries_append_of_no_load, entries]
    · rfl
    · intro call member
      rcases List.mem_append.mp member with early | last
      · exact other call early
      · rw [List.mem_singleton.mp last]
        rfl

/-- A generation that comes up after the first initializer, or without one, has none called. -/
theorem reload_again_initialized (kept : Initialized session) {generation : Generation}
    (up : attempt host.chronicled session.reloader session.world =
      (.ok generation, stats, after))
    (same : initialize? host.chronicled session.reloader.legacyState generation.entry after =
      (session.reloader.legacyState, after))
    (first : firstInit? (goodEntries session.world.calls ++ [generation.entry]) =
      firstInit? (goodEntries session.world.calls)) :
    Initialized (reload host.chronicled session) := by
  obtain ⟨_, _, _, good⟩ := reload_lastGood host kept.good
  obtain ⟨artifact, module, _, _, whole, entries⟩ := calls_of_reload up []
    (by rw [same, List.append_nil]) (by simp)
  have outside : ∀ call ∈ [HostCall.build session.reloader.input (.ok artifact),
      .load artifact (.ok module)] ++ ([] ++ [.record (loadedRecord generation)]),
      call.isLegacy = false := by
    simp [HostCall.isLegacy]
  refine ⟨good, ?_, ?_⟩
  · rw [whole] at entries ⊢
    exact kept.contract.append_quiet outside (by rw [entries, first])
  · rw [whole, initsIn_append, initsIn_of_quiet outside, List.append_nil, ← kept.state,
      reload_of_ok up, same]

/-- The first generation with an initializer has it called when it comes up. -/
theorem reload_first_initialized (kept : Initialized session) {generation : Generation}
    {init update : Address}
    (up : attempt host.chronicled session.reloader session.world =
      (.ok generation, stats, after))
    (entry : generation.entry = .legacy init update)
    (state : session.reloader.legacyState = none) :
    Initialized (reload host.chronicled session) := by
  obtain ⟨_, _, _, good⟩ := reload_lastGood host kept.good
  have unfound := kept.uncalled_iff.mp state
  have uncalled : initsIn session.world.calls = [] := by
    have once := kept.contract.once
    rw [unfound] at once
    exact List.map_eq_nil_iff.mp once
  let answer := (host.callInit init after.world).1
  have started : initialize? host.chronicled session.reloader.legacyState generation.entry after =
      (some answer, after.note (.callInit init answer) (host.callInit init after.world).2) := by
    rw [state, entry]
    rfl
  obtain ⟨artifact, module, resolve, path, whole, entries⟩ := calls_of_reload up
    [.callInit init answer] (by rw [started]; rfl) (by simp [HostCall.isLoad])
  obtain ⟨number, _⟩ := swaps_of_ok up
  have inits : initsIn (reload host.chronicled session).world.calls = [(init, answer)] := by
    rw [whole, initsIn_append, uncalled]
    rfl
  refine ⟨good, ?_, ?_⟩
  · rw [whole] at entries inits ⊢
    refine kept.contract.append ?_ ?_ ?_
    · rw [inits, entries, firstInit?_append, unfound, entry]
      rfl
    · intro before called told rest place
      rcases split_append place with ⟨between, rfl, late⟩ | ⟨between, early, _⟩
      · have alone : between = [] := by
          cases between with
          | nil => rfl
          | cons other others =>
            obtain ⟨_, late⟩ := List.cons.inj late
            exact absurd late (by cases others <;> simp)
        subst alone
        obtain ⟨same, rfl⟩ := List.cons.inj late
        obtain ⟨rfl, rfl⟩ := HostCall.callInit.inj same
        rw [entry] at resolve
        refine ⟨session.world.calls, _, artifact, module, update, [], rfl, resolve, unfound, ?_⟩
        rw [← kept.good.swaps, ← number, ← path, ← entry]
        rfl
      · have member : HostCall.callInit called told ∈
            [HostCall.build session.reloader.input (.ok artifact),
              .load artifact (.ok module)] := by
          rw [early]
          simp
        simp at member
    · intro before update state answered rest place
      have member : HostCall.callUpdate update state answered ∈
          [HostCall.build session.reloader.input (.ok artifact), .load artifact (.ok module)] ++
            ([.callInit init answer] ++ [.record (loadedRecord generation)]) := by
        rw [place]
        simp
      simp at member
  · rw [inits, reload_of_ok up, started]
    rfl

end Reload

/-- A reload calls an initializer exactly if it brings up the first generation that has one. -/
theorem reload_initialized (host : Host W) {session : Session (Chronicle W)}
    (kept : Initialized session) : Initialized (reload host.chronicled session) := by
  rcases result : attempt host.chronicled session.reloader session.world with
    ⟨error | generation, stats, after⟩
  · exact reload_failed_initialized kept result
  · cases entry : generation.entry with
    | main address =>
      refine reload_again_initialized kept result (by rw [entry]; rfl) ?_
      rw [entry, firstInit?_append]
      exact Option.or_none
    | legacy init update =>
      cases state : session.reloader.legacyState with
      | none => exact reload_first_initialized kept result entry state
      | some answer =>
        refine reload_again_initialized kept result (by rw [entry, state]; rfl) ?_
        rw [firstInit?_append]
        cases found : firstInit? (goodEntries session.world.calls) with
        | none => cases state.symm.trans (kept.uncalled_iff.mpr found)
        | some first => rfl

/-- An invocation gives an update function what the one initializer answered. -/
theorem invoke_initialized (host : Host W) {session : Session (Chronicle W)}
    (kept : Initialized session) (good : LastGood (invoke host.chronicled session).2) :
    Initialized (invoke host.chronicled session).2 := by
  cases active : session.reloader.active with
  | none =>
    rw [invoke_of_none active]
    exact kept
  | some generation =>
    have entries (call : HostCall) (other : call.isLoad = false) :
        goodEntries (session.world.calls ++ [call]) = goodEntries session.world.calls :=
      goodEntries_append_of_no_load _ (by simp [other])
    cases entry : generation.entry with
    | main address =>
      rw [invoke_of_main active entry] at good ⊢
      have outside (given left : Context) :
          ∀ call ∈ [HostCall.callMain address given left], call.isLegacy = false := by
        simp [HostCall.isLegacy]
      refine ⟨good, kept.contract.append_quiet (outside _ _) (by rw [entries _ rfl]), ?_⟩
      exact kept.state.trans (by
        simp [Host.chronicled, Chronicle.note, initsIn_append, initsIn_of_quiet (outside _ _)])
    | legacy init update =>
      obtain ⟨first, state, inits, answered⟩ := kept.called active entry
      rw [invoke_of_legacy active entry] at good ⊢
      have given : session.reloader.legacyState.getD 0 = state := by
        rw [answered]
        rfl
      have quiet (answer : UInt32) :
          initsIn (session.world.calls ++ [.callUpdate update state answer]) =
            initsIn session.world.calls := by
        rw [initsIn_append]
        exact List.append_nil _
      simp only [given, Host.chronicled, Chronicle.note] at good ⊢
      refine ⟨good, kept.contract.append_update inits update _, ?_⟩
      show session.reloader.legacyState = _
      rw [kept.state, quiet]

/-- Everything that a tick does keeps the contract. -/
theorem tick_initialized (host : Host W) {session : Session (Chronicle W)}
    (kept : Initialized session) : Initialized (tick host.chronicled session).2 := by
  obtain ⟨_, _, _, good⟩ := tick_lastGood host kept.good
  have reloaded : Initialized (atCall host.chronicled session) := by
    have due : Initialized (reloadIfDue host.chronicled session) := by
      unfold reloadIfDue
      split
      · exact reload_initialized host ⟨kept.good.of_same rfl rfl rfl, kept.contract, kept.state⟩
      · exact kept
    exact ⟨due.good.of_same rfl rfl rfl, due.contract, due.state⟩
  have called := invoke_initialized host reloaded (good.of_same rfl rfl rfl)
  exact ⟨good, called.contract, called.state⟩

/-- **A module is initialized once and for all.** After any reports and ticks on a fresh reloader,
whatever the host answers: initializers were called at most once, and the one that was is that of
the first generation that came up with one; it was called right after the load of this generation
and before anything else was; and every update was given what it had answered before. -/
theorem performAll_initializes_once (host : Host W) (input : Path) (wake : Span)
    (context : Context) (world : W) (steps : List LoopStep) :
    let fresh : Session W := ⟨.new input wake, context, world⟩
    let session := performAll host.chronicled fresh.unwritten steps
    let calls := session.world.calls
    session.map Chronicle.world = performAll host fresh steps ∧
      (initsIn calls).map Prod.fst = (firstInit? (goodEntries calls)).toList ∧
      (∀ before init state after, calls = before ++ .callInit init state :: after →
        StartsFirst before init after) ∧
      ∀ before update state answer after,
        calls = before ++ .callUpdate update state answer :: after →
          ∃ init, initsIn before = [(init, state)] ∧ initsIn calls = [(init, state)] := by
  intro fresh session calls
  have start : Initialized fresh.unwritten := ⟨.fresh fresh rfl rfl, .nothing, rfl⟩
  have kept : Initialized session := performAll_keeps Initialized
    (fun session kept step => by
      cases step with
      | notify => exact ⟨kept.good.of_same rfl rfl rfl, kept.contract, kept.state⟩
      | tick => exact tick_initialized host kept) start steps
  refine ⟨performAll_plain host fresh steps, kept.contract.once, kept.contract.starts, ?_⟩
  intro before update state answer after whole
  obtain ⟨init, early⟩ := kept.contract.given before update state answer after whole
  refine ⟨init, early, ?_⟩
  -- There is one initializer in all, and that one came before this update.
  have most : (initsIn calls).length ≤ 1 := by
    rw [← List.length_map Prod.fst, kept.contract.once]
    exact Option.length_toList_le
  have parts : initsIn calls =
      (init, state) :: initsIn (.callUpdate update state answer :: after) := by
    rw [show calls = _ from whole, initsIn_append, early]
    rfl
  rw [parts, List.length_cons] at most
  rw [parts, List.eq_nil_of_length_eq_zero (Nat.eq_zero_of_le_zero (Nat.le_of_succ_le_succ most))]

end Reloader

end LiveReload
