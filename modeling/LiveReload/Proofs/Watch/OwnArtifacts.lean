/-
**A build does not wake the watcher that waits for it.**

What is watched for an input leaves out the artifact directory. A directory that is there when the
watcher starts is left out by its one path, and one that is not is joined to the current directory
as it was spelled. In a tree without links both name the directory that the build will make,
component by component, unless a missing directory is spelled with `..`: such a path is no part of
any path that is reported, and the builds of the loop wake their own watcher.

* `FileSystem.Foretells`: the watcher can name the directory before it is made;
* `FileSystem.resolve_components`: what is left out is the directory that the path denotes;
* `Settings.artifacts_never_count`: the artifacts of a build never count, or they are not left out
  at all.
-/
import LiveReload.Proofs.Files.Spelled
import LiveReload.Proofs.Watch.Exclusions
import LiveReload.Watch.Setup

namespace LiveReload

namespace FileSystem

variable {files later : FileSystem} {dir : Path} {spot : Spot}

/-- The directory is there already, or its path never goes up. -/
def Foretells (files : FileSystem) (dir : Path) : Prop :=
  (∃ found, files.canonical dir = .ok found) ∨ .up ∉ dir.components

/-- In trees without links a directory that is resolved early is the one that its path denotes
later. -/
theorem resolve_components (linkless : files.root.Linkless) (still : later.root.Linkless)
    (same : later.current = files.current) (denotes : later.Denotes dir spot)
    (foretells : files.Foretells dir) :
    (files.resolve dir).components = (Spot.path spot).components := by
  unfold resolve
  cases canonical : files.canonical dir with
  | ok found =>
    have starts : later.start dir = files.start dir := by rw [start, start, same]
    rw [denotes.reached still, starts]
    exact congrArg Path.components (canonical_reached linkless canonical)
  | error fault =>
    have level : .up ∉ dir.components := by
      rcases foretells with ⟨found, there⟩ | level
      · rw [canonical] at there
        cases there
      · exact level
    have place : files.currentPath = later.currentPath := by rw [currentPath, currentPath, same]
    rw [place]
    exact denotes.components still level

/-- A missing directory that is spelled with `..` stays so. -/
theorem up_mem_resolve (missed : ¬ files.Foretells dir) : .up ∈ (files.resolve dir).components := by
  obtain ⟨missing, goes⟩ := not_or.mp missed
  rw [Decidable.not_not, Path.up_mem_components] at goes
  unfold resolve
  cases canonical : files.canonical dir with
  | ok found => exact absurd ⟨found, canonical⟩ missing
  | error fault =>
    rw [Path.up_mem_components]
    cases absolute : dir.isAbsolute with
    | true =>
      rw [Path.join, if_pos absolute]
      exact goes
    | false =>
      rw [Path.words_join _ absolute]
      exact List.mem_append_right _ goes

/-- No path that is reported lies in a directory that goes up. -/
theorem not_startsWith_resolve (missed : ¬ files.Foretells dir) (proper : spot.Proper) :
    (Spot.path spot).startsWith (files.resolve dir) = false := by
  refine Bool.eq_false_iff.mpr fun starts => proper.up_notMem ?_
  exact (List.isPrefixOf_iff_prefix.mp starts).subset (up_mem_resolve missed)

end FileSystem

namespace Settings

variable {settings : Settings} {input : Path} {files later : FileSystem} {records : List Record}
  {config : WatchSettings} {spot : Spot}

/-- What is left out for an input, as it was spelled: what is configured, and the artifacts. -/
theorem watchFor_ignoreDirs (settings : Settings) (input : Path) :
    (settings.watchFor input).ignoreDirs =
      settings.watch.ignoreDirs ++ [settings.build.outDir] := by
  unfold watchFor withDir
  split <;> rfl

/-- What is left out of what is watched for an input: what is configured, and the artifacts. -/
theorem ignoreDirs_watchFor
    (resolved : (settings.watchFor input).resolved files = (records, .ok config)) :
    config.ignoreDirs =
      settings.watch.ignoreDirs.map files.resolve ++ [files.resolve settings.build.outDir] := by
  unfold WatchSettings.resolved at resolved
  rcases dirs : WatchSettings.resolveDirs files (settings.watchFor input).dirs with
    ⟨said, fault | found⟩
  · rw [dirs] at resolved
    cases resolved
  · rw [dirs] at resolved
    obtain ⟨-, same⟩ := Prod.mk.inj resolved
    obtain rfl := Except.ok.inj same
    show (settings.watchFor input).ignoreDirs.map files.resolve = _
    rw [watchFor_ignoreDirs, List.map_append]
    rfl

/-- **A build does not wake the watcher.** In trees without links, let the watcher for an input
start, and let the artifact directory then be made, wherever its path leads. If it was there before,
or its path does not go up, then nothing that happens inside it counts. Otherwise it is not left out
at all: every event at entries of the tree counts exactly if it would with no artifact directory. -/
theorem artifacts_never_count
    (resolved : (settings.watchFor input).resolved files = (records, .ok config))
    (linkless : files.root.Linkless) (still : later.root.Linkless)
    (same : later.current = files.current)
    (denotes : later.Denotes settings.build.outDir spot) :
    (files.Foretells settings.build.outDir → ∀ event : Event, event.paths ≠ [] →
      (∀ path ∈ event.paths, ∃ rest, path = Spot.path (spot ++ rest)) →
      Notification.isRelevant config (.event event) = false) ∧
    (¬ files.Foretells settings.build.outDir → ∀ event : Event,
      (∀ path ∈ event.paths, ∃ place, Spot.Proper place ∧ path = Spot.path place) →
      Notification.isRelevant config (.event event) =
        Notification.isRelevant
          { config with ignoreDirs := settings.watch.ignoreDirs.map files.resolve }
          (.event event)) := by
  have left_out := ignoreDirs_watchFor resolved
  constructor
  · intro foretells event some inside
    have components := FileSystem.resolve_components linkless still same denotes foretells
    have ignored : ∀ path ∈ event.paths, config.ignores path = true := by
      intro path member
      obtain ⟨rest, rfl⟩ := inside path member
      have starts := Spot.startsWith_path_append spot rest components
      rw [WatchSettings.ignores_eq, left_out, List.any_append, List.any_cons, starts]
      simp
    exact Event.isRelevant_of_ignored some ignored
  · intro missed event places
    -- The directory was joined with its `..` in it, which no path of an entry has.
    have alike : ∀ path ∈ event.paths, config.ignores path =
        { config with ignoreDirs := settings.watch.ignoreDirs.map files.resolve }.ignores path := by
      intro path member
      obtain ⟨place, proper, rfl⟩ := places path member
      rw [WatchSettings.ignores_eq, WatchSettings.ignores_eq, left_out, List.any_append,
        List.any_cons, FileSystem.not_startsWith_resolve missed proper]
      simp
    exact Event.isRelevant_congr alike

/-- The standard settings with an artifact directory. -/
def building (outDir : Path) : Settings :=
  { standard with build := { standard.build with outDir } }

end Settings

/-! ### A directory that is spelled in two ways -/

/-- Directories that are made are no links. -/
theorem FileSystem.Growth.linkless {before after : FileSystem} (growth : before.Growth after)
    (linkless : before.root.Linkless) : after.root.Linkless := by
  intro spot target modified link
  cases old : before.root.seen spot with
  | none => cases growth.introduced spot _ link old
  | some node =>
    rw [growth.retains spot node old, Option.some_inj] at link
    exact linkless spot target modified (link ▸ old)

namespace FileSystem

/-- A tree in which the current directory holds one other. -/
def workplace : FileSystem := ⟨.dir [("w", .dir [("sub", .dir [] 0)] 0)] 0, ["w"], 0, []⟩

theorem linkless_workplace : workplace.root.Linkless := by
  refine Node.linkless_dir fun outer here => ?_
  obtain rfl := List.mem_singleton.mp here
  refine Node.linkless_dir fun inner there => ?_
  obtain rfl := List.mem_singleton.mp there
  exact Node.linkless_dir fun entry none => nomatch none

/-- The watcher starts in this tree whatever the artifact directory is. -/
theorem resolved_workplace (dir : Path) :
    ((Settings.building dir).watchFor ⟨"app.rs"⟩).resolved workplace =
      ([Watcher.startRecord ⟨"/w"⟩],
        .ok { WatchSettings.standard with
          dirs := [⟨"/w"⟩], ignoreDirs := [workplace.resolve dir] }) := by
  have steps : Path.steps ⟨"."⟩ = [.stay] := by decide
  have walk : workplace.walk true ⟨"."⟩ = .ok (.entry ["w"]) := by
    rw [walk_eq_ok, steps]
    exact ⟨⟨by decide, by decide⟩, .stay rfl .done⟩
  have canonical : workplace.canonical ⟨"."⟩ = .ok ⟨"/w"⟩ := by
    rw [FileSystem.canonical, walk]
    rfl
  have watched : (Settings.building dir).watchFor ⟨"app.rs"⟩ =
      { WatchSettings.standard with dirs := [⟨"."⟩], ignoreDirs := [dir] } := by
    have beside : Settings.inputDir ⟨"app.rs"⟩ = ⟨"."⟩ := by decide
    rw [Settings.watchFor, beside]
    rfl
  rw [watched]
  simp only [WatchSettings.resolved, WatchSettings.resolveDirs, canonical]
  rfl

/-- A directory that is missing where it belongs is made there. -/
theorem makeDirectories_vacant {files : FileSystem} {path : Path} {parent : Spot} {name : String}
    (short : tooLong path = false) (closes : closed path = path)
    (walk : files.walk false path = .ok (.vacant parent name)) :
    files.makeDirectories path =
      (none, (files.put (parent ++ [name]) (.dir [] files.clock)).note
        [⟨.createDirectory, parent ++ [name]⟩]) := by
  have spelled : path.text.isEmpty = false := (walk_eq_ok.mp walk).1.1
  have made : files.makeDirectory path =
      .ok ((files.put (parent ++ [name]) (.dir [] files.clock)).note
        [⟨.createDirectory, parent ++ [name]⟩]) := by
    rw [makeDirectory, landClosed, short, closes, walk]
    rfl
  obtain ⟨outer, inside⟩ : ∃ outer, path.ancestors = path :: outer := by
    rw [Path.ancestors, Path.ancestorsWithin, spelled]
    exact ⟨_, rfl⟩
  rw [makeDirectories, inside, makeNested, made]

end FileSystem

/-- A missing directory is left out before it is made. -/
theorem Settings.artifacts_never_count_straight :
    ∃ config records,
      ((building ⟨"out"⟩).watchFor ⟨"app.rs"⟩).resolved .workplace = (records, .ok config) ∧
        (FileSystem.workplace.makeDirectories ⟨"out"⟩).2.Denotes ⟨"out"⟩ ["w", "out"] ∧
        Notification.isRelevant config (.event ⟨.create, [Spot.path ["w", "out", "app.so"]]⟩) =
          false := by
  have steps : Path.steps ⟨"out"⟩ = [.name "out"] := by decide
  have missing : FileSystem.workplace.walk false ⟨"out"⟩ = .ok (.vacant ["w"] "out") := by
    rw [FileSystem.walk_eq_ok, steps]
    exact ⟨⟨by decide, by decide⟩, .free rfl (by decide) rfl⟩
  have made := FileSystem.makeDirectories_vacant (by decide) (by decide) missing
  have growth := FileSystem.workplace.growth_makeDirectories ⟨"out"⟩
  have denotes : (FileSystem.workplace.makeDirectories ⟨"out"⟩).2.Denotes ⟨"out"⟩ ["w", "out"] := by
    rw [made]
    refine .there (FileSystem.walk_eq_ok.mpr ⟨⟨by decide, by decide⟩, ?_⟩) rfl
    rw [steps]
    exact .enter rfl (by decide) .done
  obtain ⟨counts, _⟩ := artifacts_never_count (FileSystem.resolved_workplace ⟨"out"⟩)
    FileSystem.linkless_workplace (growth.linkless FileSystem.linkless_workplace) growth.current
    denotes
  refine ⟨_, _, FileSystem.resolved_workplace ⟨"out"⟩, denotes, ?_⟩
  refine counts (.inr (by decide)) _ (List.cons_ne_nil _ _) fun path member => ?_
  exact ⟨["app.so"], List.mem_singleton.mp member⟩

/-- A missing directory that is spelled through another is made in the tree, where no link is, and
what happens inside it counts. -/
theorem Settings.artifacts_count_spelled_up :
    let outDir : Path := ⟨"sub/../out"⟩
    let later := (FileSystem.workplace.makeDirectories outDir).2
    FileSystem.workplace.root.Linkless ∧ later.root.Linkless ∧
      later.current = FileSystem.workplace.current ∧ later.Denotes outDir ["w", "out"] ∧
      ∃ config records,
        ((building outDir).watchFor ⟨"app.rs"⟩).resolved .workplace = (records, .ok config) ∧
          Notification.isRelevant config
            (.event ⟨.create, [Spot.path (["w", "out"] ++ ["app.so"])]⟩) = true := by
  intro outDir later
  have steps : outDir.steps = [.name "sub", .up, .name "out"] := by decide
  have relative (files : FileSystem) : files.start outDir = files.current :=
    if_neg (by decide)
  have missing (through : Bool) :
      FileSystem.workplace.walk through outDir = .ok (.vacant ["w"] "out") := by
    rw [FileSystem.walk_eq_ok, steps, relative]
    refine ⟨⟨by decide, by decide⟩, .enter rfl (by decide) (.up rfl ?_)⟩
    exact .free rfl (by decide) rfl
  have made := FileSystem.makeDirectories_vacant (by decide) (by decide) (missing false)
  have growth := FileSystem.workplace.growth_makeDirectories outDir
  have denotes : later.Denotes outDir ["w", "out"] := by
    show (FileSystem.workplace.makeDirectories outDir).2.Denotes outDir ["w", "out"]
    rw [made]
    refine .there (FileSystem.walk_eq_ok.mpr ⟨⟨by decide, by decide⟩, ?_⟩) rfl
    rw [steps, relative]
    refine .enter rfl (by decide) (.up rfl ?_)
    exact .enter rfl (by decide) .done
  have joined : FileSystem.workplace.resolve outDir = ⟨"/w/sub/../out"⟩ := by
    rw [FileSystem.resolve, FileSystem.canonical, missing true]
    decide
  refine ⟨FileSystem.linkless_workplace, growth.linkless FileSystem.linkless_workplace,
    growth.current, denotes, _, _, FileSystem.resolved_workplace outDir, ?_⟩
  rw [joined]
  decide

end LiveReload
