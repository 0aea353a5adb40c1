/-
**No path is loaded twice.**

Each call of a builder proposes a new path to the compiler, whether the call then succeeds or fails
in the toolchain, the directory, the start or the end of the compiler. A reload loop over a builder
loads only what the builder answered, right after it was answered, so the loader is never asked for
a path that it has seen.

* `Builder.offers`: what calls propose and answer, in order; `offers_differ`, `offers_apart`: within
  a session and between two sessions no two proposals are the same path;
* `Host.building`: a host that builds with a builder and does all else as it likes;
* `LoadsFresh`: what was loaded has ascending counts, an invariant of every call (`keeps_fresh`);
* `Builder.never_proposes_twice`: all of this together.
-/
import LiveReload.Build.Builder
import LiveReload.Proofs.Build.FreshNames
import LiveReload.Proofs.Reload.LastGood

namespace LiveReload

variable {V : Type}

/-! ### The calls of a builder -/

namespace Builder

/-- The path that the next call proposes to the compiler. -/
def proposal (builder : Builder) : Path := builder.names.next.1

/-- What calls propose and what they answer, in order. Between two calls anything may happen to the
machine, so each call comes with the machine that it finds. -/
def offers (builder : Builder) : List (Path × Machine) → List (Path × Except BuildError Path)
  | [] => []
  | (input, machine) :: rest =>
    let (answer, after, _) := builder.makeModule input machine
    (builder.proposal, answer) :: after.offers rest

/-- Every call takes a name, also one that fails. -/
theorem makeModule_names (builder : Builder) (input : Path) (machine : Machine) :
    (builder.makeModule input machine).2.1.names = builder.names.next.2 := by
  unfold makeModule
  dsimp only
  split <;> rfl

theorem makeModule_answer {builder : Builder} {input : Path} {machine : Machine} {path : Path}
    (answer : (builder.makeModule input machine).1 = .ok path) : path = builder.proposal := by
  unfold makeModule at answer
  dsimp only at answer
  split at answer
  · cases answer
  · exact (Except.ok.inj answer).symm

theorem proposals_eq (builder : Builder) (calls : List (Path × Machine)) :
    (builder.offers calls).map Prod.fst =
      (List.range calls.length).map fun index =>
        builder.names.path (builder.names.issued + index + 1) := by
  induction calls generalizing builder with
  | nil => rfl
  | cons call rest ih =>
    obtain ⟨input, machine⟩ := call
    rw [List.length_cons, List.range_succ_eq_map, List.map_cons, List.map_map, offers,
      List.map_cons, ih, makeModule_names]
    refine congrArg (List.cons _) (List.map_congr_left fun index _ => ?_)
    show builder.names.path (builder.names.issued + 1 + index + 1) =
      builder.names.path (builder.names.issued + (index + 1) + 1)
    rw [Nat.add_assoc _ 1 index, Nat.add_comm 1 index]

/-- A proposal is the path of some count. -/
theorem exists_count {builder : Builder} {calls : List (Path × Machine)}
    {offer : Path × Except BuildError Path} (offered : offer ∈ builder.offers calls) :
    ∃ count, offer.1 = builder.names.path count := by
  have member : offer.1 ∈ (builder.offers calls).map Prod.fst := List.mem_map_of_mem offered
  rw [proposals_eq] at member
  obtain ⟨index, _, same⟩ := List.mem_map.mp member
  exact ⟨_, same.symm⟩

/-- No two calls of a builder propose the same path. -/
theorem offers_differ (builder : Builder) (calls : List (Path × Machine)) :
    (builder.offers calls).Pairwise fun first second => first.1.same second.1 = false := by
  have distinct : ((builder.offers calls).map Prod.fst).Pairwise
      fun first second => first.same second = false := by
    rw [proposals_eq, List.pairwise_map]
    refine List.pairwise_lt_range.imp fun {early late} before => ?_
    by_contra same
    have counts := (ArtifactNames.path_inj rfl rfl (Bool.of_not_eq_false same)).2
    omega
  exact List.pairwise_map.mp distinct

/-- Builders of different sessions with one directory and stem never propose the same path. -/
theorem offers_apart {builder other : Builder} (dir : builder.names.dir = other.names.dir)
    (stem : builder.names.stem = other.names.stem)
    (sessions : builder.names.session ≠ other.names.session) (calls more : List (Path × Machine)) :
    ∀ first ∈ builder.offers calls, ∀ second ∈ other.offers more,
      first.1.same second.1 = false := by
  intro first early second late
  obtain ⟨count, firstPath⟩ := exists_count early
  obtain ⟨index, secondPath⟩ := exists_count late
  by_contra same
  rw [firstPath, secondPath] at same
  exact sessions (ArtifactNames.path_inj dir stem (Bool.of_not_eq_false same)).1

theorem answer_of_offer {builder : Builder} {calls : List (Path × Machine)}
    {offer : Path × Except BuildError Path} (offered : offer ∈ builder.offers calls) {path : Path}
    (answer : offer.2 = .ok path) : path = offer.1 := by
  induction calls generalizing builder with
  | nil => cases offered
  | cons call rest ih =>
    rcases List.mem_cons.mp offered with rfl | later
    · exact makeModule_answer answer
    · exact ih later

end Builder

/-! ### A reload loop over a builder -/

/-- A host that builds with a builder on its machine, and does all else in any way. -/
def Host.building (host : Host (Machine × V)) : Host (Builder × Machine × V) where
  record record world := (world.1, host.record record world.2)
  build input world :=
    let (answer, builder, machine) := world.1.makeModule input world.2.1
    (answer, builder, machine, world.2.2)
  load path world :=
    let (answer, rest) := host.load path world.2
    (answer, world.1, rest)
  callMain address context world :=
    let (answer, rest) := host.callMain address context world.2
    (answer, world.1, rest)
  callInit address world :=
    let (answer, rest) := host.callInit address world.2
    (answer, world.1, rest)
  callUpdate address state world :=
    let (answer, rest) := host.callUpdate address state world.2
    (answer, world.1, rest)
  wait delay world :=
    let (answer, rest) := host.wait delay world.2
    (answer, world.1, rest)

/-- The paths that were loaded, in order. -/
def loadsIn (calls : List HostCall) : List Path :=
  calls.filterMap fun
    | .load path _ => some path
    | _ => none

theorem loadsIn_concat (calls : List HostCall) {call : HostCall} (other : call.isLoad = false) :
    loadsIn (calls ++ [call]) = loadsIn calls := by
  rw [loadsIn, List.filterMap_append]
  cases call with
  | load path answer => cases other
  | _ => exact List.append_nil _

/-- What was loaded are paths of these names with ascending counts, all of which were handed out. -/
def LoadsFresh (names : ArtifactNames) (chronicle : Chronicle (Builder × Machine × V)) : Prop :=
  ∃ (issued : Nat) (counts : List Nat), chronicle.world.1.names = { names with issued } ∧
    loadsIn chronicle.calls = counts.map names.path ∧ counts.Pairwise (· < ·) ∧
    ∀ count ∈ counts, count ≤ issued

namespace LoadsFresh

variable {names : ArtifactNames} {chronicle : Chronicle (Builder × Machine × V)}

/-- A call that is no load and leaves the builder. -/
theorem other (fresh : LoadsFresh names chronicle) {call : HostCall} (other : call.isLoad = false)
    {world : Builder × Machine × V} (builder : world.1 = chronicle.world.1) :
    LoadsFresh names (chronicle.note call world) := by
  obtain ⟨issued, counts, taken, loads, ascending, most⟩ := fresh
  refine ⟨issued, counts, (congrArg Builder.names builder).trans taken, ?_, ascending, most⟩
  rw [← loads]
  exact loadsIn_concat _ other

/-- A build takes a count that nothing loaded has. -/
theorem built {host : Host (Machine × V)} (fresh : LoadsFresh names chronicle) {input : Path}
    {answer : Except BuildError Path} {after : Chronicle (Builder × Machine × V)}
    (build : host.building.chronicled.build input chronicle = (answer, after)) :
    LoadsFresh names after ∧ ∀ artifact, answer = .ok artifact →
      ∃ (counts : List Nat) (next : Nat), after.world.1.names = { names with issued := next } ∧
        loadsIn after.calls = counts.map names.path ∧ counts.Pairwise (· < ·) ∧
        (∀ count ∈ counts, count < next) ∧ artifact = names.path next := by
  obtain ⟨rfl, rfl⟩ := Prod.mk.inj build
  obtain ⟨issued, counts, taken, loads, ascending, most⟩ := fresh
  have next := chronicle.world.1.makeModule_names input chronicle.world.2.1
  rw [taken] at next
  have same (answer : Except BuildError Path) :
      loadsIn (chronicle.calls ++ [.build input answer]) = counts.map names.path :=
    (loadsIn_concat _ rfl).trans loads
  refine ⟨⟨issued + 1, counts, next, same _, ascending, fun count member => ?_⟩, ?_⟩
  · exact Nat.le_succ_of_le (most count member)
  · intro artifact answered
    refine ⟨counts, issued + 1, next, same _, ascending, fun count member => ?_, ?_⟩
    · exact Nat.lt_succ_of_le (most count member)
    · rw [Builder.makeModule_answer answered, Builder.proposal, taken]
      rfl

/-- An attempt loads at most what it has just built. -/
theorem attempt (host : Host (Machine × V)) (reloader : Reloader)
    (fresh : LoadsFresh names chronicle) :
    LoadsFresh names (Reloader.attempt host.building.chronicled reloader chronicle).2.2 := by
  have ends := Reloader.attempt_ends host.building.chronicled reloader chronicle
  generalize Reloader.attempt host.building.chronicled reloader chronicle = answer at ends
  cases ends with
  | unbuilt build => exact (fresh.built build).1
  | unloaded build load | unresolved build load | up build load =>
    obtain ⟨_, answered⟩ := fresh.built build
    obtain ⟨counts, next, taken, loads, ascending, fewer, rfl⟩ := answered _ rfl
    obtain ⟨_, rfl⟩ := Prod.mk.inj load
    refine ⟨next, counts ++ [next], taken, ?_, ?_, ?_⟩
    · rw [List.map_append, ← loads]
      simp [Chronicle.note, loadsIn]
    · rw [List.pairwise_append]
      exact ⟨ascending, List.pairwise_singleton _ _, by simpa using fewer⟩
    · intro count member
      rcases List.mem_append.mp member with early | last
      · exact Nat.le_of_lt (fewer count early)
      · exact Nat.le_of_eq (List.mem_singleton.mp last)

theorem keeps (host : Host (Machine × V)) :
    Reloader.Keeps host.building.chronicled (LoadsFresh names) where
  record _ _ fresh := fresh.other rfl rfl
  attempt reloader _ fresh := fresh.attempt host reloader
  callMain _ _ _ fresh := fresh.other rfl rfl
  callInit _ _ fresh := fresh.other rfl rfl
  callUpdate _ _ _ fresh := fresh.other rfl rfl
  wait _ _ fresh := fresh.other rfl rfl

theorem distinct (fresh : LoadsFresh names chronicle) :
    (loadsIn chronicle.calls).Pairwise fun first second => first.same second = false := by
  obtain ⟨_, counts, _, loads, ascending, _⟩ := fresh
  rw [loads, List.pairwise_map]
  refine ascending.imp fun {early late} before => ?_
  by_contra same
  have counts := (ArtifactNames.path_inj rfl rfl (Bool.of_not_eq_false same)).2
  omega

end LoadsFresh

/-- **No path is proposed or loaded twice.** Whatever directory, stem and session a builder starts
with, and whatever becomes of its calls on machines in any state: no two calls propose the same
path, and a call that succeeds answers what it proposed; a builder of another session with this
directory and stem never proposes one of these paths; and in every history of a reload loop over the
builder, and in every run of it with waits, no path is loaded twice. Paths are the same if they have
the same components. -/
theorem Builder.never_proposes_twice (config : ToolchainSettings) (dir : Path) (stem : String)
    (session : Nat) (retain : Bool) :
    let builder := Builder.new config (.new dir stem session) retain
    (∀ calls,
      ((builder.offers calls).Pairwise fun first second => first.1.same second.1 = false) ∧
        ∀ offer ∈ builder.offers calls, ∀ path, offer.2 = .ok path → path = offer.1) ∧
      (∀ (otherConfig : ToolchainSettings) (otherSession : Nat) (otherRetain : Bool),
        otherSession ≠ session → ∀ calls more, ∀ first ∈ builder.offers calls,
          ∀ second ∈ (Builder.new otherConfig (.new dir stem otherSession) otherRetain).offers more,
            first.1.same second.1 = false) ∧
      ∀ (V : Type) (host : Host (Machine × V)) (reloader : Reloader) (context : Context)
        (machine : Machine) (rest : V),
        let fresh : Session (Builder × Machine × V) :=
          ⟨reloader, context, (builder, machine, rest)⟩
        (∀ steps,
          (loadsIn (Reloader.performAll host.building.chronicled fresh.unwritten
            steps).world.calls).Pairwise fun first second => first.same second = false) ∧
          ∀ ticks,
            (loadsIn (Reloader.run host.building.chronicled ticks
              fresh.unwritten).2.world.calls).Pairwise
                fun first second => first.same second = false := by
  intro builder
  refine ⟨fun calls => ⟨builder.offers_differ calls, fun offer offered path answer =>
    answer_of_offer offered answer⟩, ?_, ?_⟩
  · intro otherConfig otherSession otherRetain sessions calls more
    let other := Builder.new otherConfig (.new dir stem otherSession) otherRetain
    have dirs : builder.names.dir = other.names.dir := rfl
    have stems : builder.names.stem = other.names.stem := rfl
    exact offers_apart dirs stems (Ne.symm sessions) calls more
  · intro V host reloader context machine rest fresh
    have start : LoadsFresh (.new dir stem session) fresh.unwritten.world :=
      ⟨0, [], rfl, rfl, .nil, by simp⟩
    have keeps : Reloader.Keeps host.building.chronicled (LoadsFresh (.new dir stem session)) :=
      LoadsFresh.keeps host
    refine ⟨fun steps => ?_, fun ticks => (Reloader.run_keeps keeps ticks start).distinct⟩
    have last : LoadsFresh (.new dir stem session)
        (Reloader.performAll host.building.chronicled fresh.unwritten steps).world := by
      refine Reloader.performAll_keeps (fun session => LoadsFresh _ session.world) ?_ start steps
      intro session fresh step
      cases step with
      | notify => exact fresh
      | tick => exact Reloader.tick_keeps keeps fresh
    exact last.distinct

end LiveReload
