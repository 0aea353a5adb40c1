/-
**Ticks with a watcher.**

While a tick runs, anything may be delivered. Nothing is consumed, so all of it waits in the inbox
when the tick is over.

* `attempt_passes`, `reload_passes`, `invoke_passes`: what the stages of a tick leave;
* `Ticks`: a tick begins a build exactly if one was due, and none is due after it (`tick_ticks`).
-/
import LiveReload.Proofs.Reload.Tick
import LiveReload.Proofs.Watch.Interleaving

namespace LiveReload

variable {W : Type}

namespace Reloader

variable {host : Host W} {scene : Scene W}

theorem record_passes (host : Host W) (scene : Scene W) (record : Record) :
    ∃ made, Scene.Passes scene (host.watched.record record scene) made ∧ .buildBegan ∉ made := by
  obtain ⟨made, passes, built⟩ := scene.act_passes [] []
    (fun world => ((), host.record record world)) rfl
  exact ⟨made, passes, fun began => nomatch built.mp began⟩

theorem build_passes {input : Path} {answer : Except BuildError Path} {built : Scene W}
    (build : host.watched.build input scene = (answer, built)) :
    ∃ made, Scene.Passes scene built made ∧ .buildBegan ∈ made := by
  obtain ⟨made, passes, begun⟩ :=
    scene.act_passes [.buildBegan] [.buildEnded] (host.build input) rfl
  rw [show scene.act [.buildBegan] [.buildEnded] (host.build input) = (answer, built) from build]
    at passes
  exact ⟨made, passes, begun.mpr List.mem_cons_self⟩

theorem load_passes {path : Path} {answer : Except LoadError Module} {loaded : Scene W}
    (load : host.watched.load path scene = (answer, loaded)) :
    ∃ made, Scene.Passes scene loaded made ∧ .buildBegan ∉ made := by
  obtain ⟨made, passes, built⟩ := scene.act_passes [] [] (host.load path) rfl
  rw [show scene.act [] [] (host.load path) = (answer, loaded) from load] at passes
  exact ⟨made, passes, fun began => nomatch built.mp began⟩

/-- Every attempt begins with a build. -/
theorem attempt_passes (host : Host W) (reloader : Reloader) (scene : Scene W) :
    ∃ made, Scene.Passes scene (attempt host.watched reloader scene).2.2 made ∧
      .buildBegan ∈ made := by
  have ends := attempt_ends host.watched reloader scene
  generalize attempt host.watched reloader scene = answer at ends
  cases ends with
  | unbuilt build => exact build_passes build
  | unloaded build load | unresolved build load | up build load =>
    obtain ⟨made, built, began⟩ := build_passes build
    obtain ⟨more, loaded, _⟩ := load_passes load
    exact ⟨made ++ more, built.trans loaded, List.mem_append_left _ began⟩

theorem initialize?_passes (host : Host W) (state : Option Nat) (entry : EntryPoint)
    (scene : Scene W) :
    ∃ made, Scene.Passes scene (initialize? host.watched state entry scene).2 made := by
  cases entry with
  | main address => exact ⟨[], .nothing scene⟩
  | legacy init update =>
    cases state with
    | some state => exact ⟨[], .nothing scene⟩
    | none =>
      obtain ⟨made, passes, _⟩ := scene.act_passes [] [] (host.callInit init) rfl
      exact ⟨made, passes⟩

/-- A reload begins a build and leaves the flags. -/
theorem reload_passes (host : Host W) (session : Session (Scene W)) :
    ∃ made, Scene.Passes session.world (reload host.watched session).world made ∧
      .buildBegan ∈ made ∧
      (reload host.watched session).reloader.fresh = session.reloader.fresh ∧
      (reload host.watched session).reloader.changed = session.reloader.changed := by
  obtain ⟨made, passes, began⟩ := attempt_passes host session.reloader session.world
  rcases result : attempt host.watched session.reloader session.world with
    ⟨error | generation, stats, scene⟩
  · rw [result] at passes
    rw [reload_of_error result]
    obtain ⟨more, recorded, _⟩ :=
      record_passes host scene (failedRecord session.reloader.active error)
    exact ⟨made ++ more, passes.trans recorded, List.mem_append_left _ began, rfl, rfl⟩
  · rw [result] at passes
    rw [reload_of_ok result]
    obtain ⟨more, started⟩ :=
      initialize?_passes host session.reloader.legacyState generation.entry scene
    obtain ⟨last, recorded, _⟩ := record_passes host
      (initialize? host.watched session.reloader.legacyState generation.entry scene).2
      (loadedRecord generation)
    exact ⟨made ++ (more ++ last), passes.trans (started.trans recorded),
      List.mem_append_left _ began, rfl, rfl⟩

/-- An invocation begins no build and leaves the flags. -/
theorem invoke_passes (host : Host W) (session : Session (Scene W)) :
    ∃ made, Scene.Passes session.world (invoke host.watched session).2.world made ∧
      .buildBegan ∉ made ∧
      (invoke host.watched session).2.reloader.fresh = session.reloader.fresh ∧
      (invoke host.watched session).2.reloader.changed = session.reloader.changed := by
  cases active : session.reloader.active with
  | none =>
    rw [invoke_of_none active]
    exact ⟨[], .nothing _, List.not_mem_nil, rfl, rfl⟩
  | some generation =>
    cases entry : generation.entry with
    | main address =>
      rw [invoke_of_main active entry]
      obtain ⟨made, passes, built⟩ := session.world.act_passes [.callBegan] [.callEnded]
        (host.callMain address session.context) rfl
      exact ⟨made, passes, fun began => by simpa using built.mp began, rfl, rfl⟩
    | legacy init update =>
      rw [invoke_of_legacy active entry]
      obtain ⟨made, passes, built⟩ := session.world.act_passes [.callBegan] [.callEnded]
        (host.callUpdate update (session.reloader.legacyState.getD 0)) rfl
      exact ⟨made, passes, fun began => by simpa using built.mp began, rfl, rfl⟩

/-- What a tick leaves: it begins a build exactly if one was due, and none is due after it. -/
structure Ticks (before after : Session (Scene W)) (made : List WatchEvent) : Prop where
  passes : Scene.Passes before.world after.world made
  built : .buildBegan ∈ made ↔ before.reloader.due = true
  done : after.reloader.due = false

theorem reloadIfDue_ticks (host : Host W) (session : Session (Scene W)) :
    ∃ made, Ticks session (reloadIfDue host.watched session) made := by
  unfold reloadIfDue
  by_cases due : (session.reloader.fresh || session.reloader.changed) = true
  · rw [if_pos due]
    obtain ⟨made, passes, began, fresh, changed⟩ := reload_passes host { session with
      reloader := { session.reloader with fresh := false, changed := false } }
    refine ⟨made, passes, ⟨fun _ => due, fun _ => began⟩, ?_⟩
    unfold Reloader.due
    rw [fresh, changed]
    rfl
  · rw [if_neg due]
    exact ⟨[], .nothing _, ⟨(fun began => nomatch began), fun now => absurd now due⟩,
      Bool.eq_false_iff.mpr due⟩

/-- **What a tick leaves.** -/
theorem tick_ticks (host : Host W) (session : Session (Scene W)) :
    ∃ made, Ticks session (tick host.watched session).2 made := by
  obtain ⟨made, ticks⟩ := reloadIfDue_ticks host session
  unfold tick
  dsimp only
  generalize reloadIfDue host.watched session = reloaded at ticks
  obtain ⟨more, passes, quiet, fresh, changed⟩ := invoke_passes host
    { reloaded with context := reloaded.context.openTick reloaded.reloader.defaultWake }
  refine ⟨made ++ more, ticks.passes.trans passes, ?_, ?_⟩
  · rw [List.mem_append, ← ticks.built]
    exact ⟨fun began => began.resolve_right quiet, .inl⟩
  · show (_ || _) = false
    rw [fresh, changed]
    exact ticks.done

end Reloader

end LiveReload
