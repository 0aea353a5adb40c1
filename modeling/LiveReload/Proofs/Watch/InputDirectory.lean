/-
**Whether the directory of an input is watched.**

The directory of an input is added to what is watched, unless it begins with the components of a
configured directory. That directory holds the input if what follows never leads out of it; a `..`
that does leaves the input where nobody looks, and its directory is not added.

* `FileSystem.Holds`: a spot lies at or below one of some directories;
* `FileSystem.place_input`: the input is an entry of its directory;
* `Settings.holds_watchFor_iff`: when its directory lies where it is watched;
* `WatchSettings.dirs_of_resolved`: what a watcher that has started looks at;
* `Settings.input_is_watched`: an input that is spelled inside what is configured is watched.
-/
import LiveReload.Proofs.Files.Places
import LiveReload.Settings.Basic
import LiveReload.Watch.Reports
import LiveReload.Watch.Setup

namespace LiveReload

namespace FileSystem

variable {files : FileSystem} {dirs more : List Path} {dir input : Path} {spot : Spot}

/-- The spot lies at or below one of the directories. -/
def Holds (files : FileSystem) (dirs : List Path) (spot : Spot) : Prop :=
  ∃ dir ∈ dirs, files.place dir <+: spot

theorem holds_append :
    files.Holds (dirs ++ more) spot ↔ files.Holds dirs spot ∨ files.Holds more spot := by
  simp only [Holds, List.mem_append, or_and_right, exists_or]

/-- The input is an entry of its directory. -/
theorem place_input (files : FileSystem) {name : String} (named : input.fileName = some name) :
    files.place input = files.place (Settings.inputDir input) ++ [name] := by
  cases above : input.parent with
  | none =>
    rw [Path.fileName_of_parent above] at named
    cases named
  | some outer =>
    obtain ⟨last, whole⟩ := Path.components_parent above
    obtain rfl : last = .name name := by
      unfold Path.fileName at named
      rw [whole, List.getLast?_concat] at named
      cases last <;> simp_all
    have inside : files.place input = files.place outer ++ [name] := by
      rw [place, whole, List.foldl_append]
      rfl
    rw [inside, Settings.inputDir, above]
    dsimp only
    split
    · -- A bare name is looked for in the current directory.
      next bare =>
      obtain ⟨text⟩ := outer
      obtain rfl := String.isEmpty_iff.mp bare
      rfl
    · rfl

end FileSystem

namespace Settings

variable {settings : Settings} {files : FileSystem} {input : Path}

/-- What is watched for an input: what is configured, and its directory unless that begins with a
configured one. -/
theorem dirs_watchFor (settings : Settings) (input : Path) :
    (settings.watchFor input).dirs = settings.watch.dirs ++
      if settings.watch.dirs.any (inputDir input).startsWith then [] else [inputDir input] := by
  unfold watchFor withDir
  split <;> simp

/-- The directory of an input lies where it is watched exactly if one that is configured holds it or
it begins with none of these. -/
theorem holds_watchFor_iff :
    files.Holds (settings.watchFor input).dirs (files.place (inputDir input)) ↔
      files.Holds settings.watch.dirs (files.place (inputDir input)) ∨
        ∀ base ∈ settings.watch.dirs, (inputDir input).startsWith base = false := by
  rw [dirs_watchFor, FileSystem.holds_append]
  refine or_congr Iff.rfl ?_
  split
  · next covered =>
    obtain ⟨base, member, starts⟩ := List.any_eq_true.mp covered
    refine iff_of_false (by simp [FileSystem.Holds]) fun none => ?_
    rw [none base member] at starts
    cases starts
  · next uncovered =>
    refine iff_of_true ⟨_, List.mem_singleton_self _, List.prefix_rfl⟩ fun base member => ?_
    exact Bool.eq_false_iff.mpr fun starts =>
      uncovered (List.any_eq_true.mpr ⟨base, member, starts⟩)

end Settings

/-! ### What a watcher looks at -/

namespace WatchSettings

variable {files : FileSystem} {records : List Record}

theorem of_resolveDirs (linkless : files.root.Linkless) {dirs found : List Path}
    (ready : resolveDirs files dirs = (records, .ok found)) :
    found = dirs.map fun dir => Spot.path (files.place dir) := by
  induction dirs generalizing records found with
  | nil =>
    cases ready
    rfl
  | cons dir rest ih =>
    cases canonical : files.canonical dir with
    | error fault =>
      rw [resolveDirs, canonical] at ready
      cases ready
    | ok path =>
      rcases others : resolveDirs files rest with ⟨said, fault | more⟩
      · rw [resolveDirs, canonical, others] at ready
        cases ready
      · rw [resolveDirs, canonical, others] at ready
        cases ready
        rw [FileSystem.canonical_reached linkless canonical, FileSystem.reach_eq_place, ih others]
        rfl

/-- A watcher that has started looks at the spots that its directories name. -/
theorem dirs_of_resolved {config found : WatchSettings} (linkless : files.root.Linkless)
    (ready : config.resolved files = (records, .ok found)) :
    found.dirs = config.dirs.map fun dir => Spot.path (files.place dir) := by
  unfold resolved at ready
  rcases dirs : resolveDirs files config.dirs with ⟨said, fault | more⟩
  · rw [dirs] at ready
    cases ready
  · rw [dirs] at ready
    cases ready
    exact of_resolveDirs linkless dirs

end WatchSettings

/-- Only a directory has a directory at or below it. -/
theorem Node.exists_dir {node : Node} {rest : Spot} (holder : node.seen rest = some folder) :
    ∃ entries modified, node = dir entries modified := by
  cases rest with
  | nil =>
    cases node with
    | dir entries modified => exact ⟨entries, modified, rfl⟩
    | _ => simp [seen, at?, outline, folder] at holder
  | cons first more =>
    obtain ⟨entries, modified, _, rfl, _⟩ := exists_dir_of_seen holder
    exact ⟨entries, modified, rfl⟩

namespace Reports

/-- A directory at or below a watched one is watched, if it is not too deep in it. -/
theorem mem_dirs {root node : Node} {base rest : Spot} {depth : Nat}
    (here : root.at? base = some node) (holder : node.seen rest = some Node.folder)
    (shallow : rest.length < depth) (above : List Spot) (path : Path) :
    ∃ found, (base ++ rest, found) ∈ dirs root depth above base path := by
  obtain ⟨depth, rfl⟩ := Nat.exists_eq_succ_of_ne_zero (Nat.ne_zero_of_lt shallow)
  induction rest generalizing base node depth above path with
  | nil =>
    obtain ⟨entries, modified, rfl⟩ := Node.exists_dir holder
    rw [dirs, here, List.append_nil]
    exact ⟨path, List.mem_cons_self⟩
  | cons name more ih =>
    obtain ⟨entries, modified, child, rfl, found, inside⟩ := Node.exists_dir_of_seen holder
    obtain ⟨inner, stamp, rfl⟩ := Node.exists_dir inside
    have below : root.at? (base ++ [name]) = some (.dir inner stamp) := by
      rw [Node.at?_concat, here]
      exact found
    have fewer : more.length < depth := Nat.lt_of_succ_lt_succ shallow
    obtain ⟨depth, rfl⟩ := Nat.exists_eq_succ_of_ne_zero (Nat.ne_zero_of_lt fewer)
    obtain ⟨last, member⟩ := ih below inside (base :: above) (path.join ⟨name⟩) depth fewer
    obtain ⟨front, back, rfl, -⟩ := List.lookup_eq_some_iff.mp found
    rw [List.append_assoc, List.singleton_append] at member
    rw [dirs, here]
    exact ⟨last, List.mem_cons_of_mem _
      (List.mem_flatMap.mpr ⟨(name, .dir inner stamp), by simp, member⟩)⟩

/-- A change in a directory at or below a watched one is reported. -/
theorem exists_event {files : FileSystem} {roots : List Spot} {base dir : Spot} {name : String}
    {kind : EventKind} {changes : List Change} (watched : base ∈ roots) (inside : base <+: dir)
    (holder : files.root.seen dir = some Node.folder) (shallow : dir.length < depthLimit)
    (change : ⟨kind, dir ++ [name]⟩ ∈ changes) :
    ∃ event ∈ ofChanges files roots changes, event.kind = kind := by
  obtain ⟨rest, rfl⟩ := inside
  rw [Node.seen, Node.at?_append] at holder
  cases here : files.root.at? base with
  | none =>
    rw [here] at holder
    cases holder
  | some node =>
    rw [here] at holder
    have fewer : rest.length < depthLimit := by
      rw [List.length_append] at shallow
      omega
    obtain ⟨found, member⟩ := mem_dirs here holder fewer [] (Spot.path base)
    have among : (base ++ rest, found) ∈ (allDirs files roots).reverse :=
      List.mem_reverse.mpr (List.mem_flatMap.mpr ⟨base, watched, member⟩)
    cases kept : (allDirs files roots).reverse.lookup (base ++ rest) with
    | none => simpa using List.lookup_eq_none_iff.mp kept _ among
    | some path =>
      refine ⟨⟨kind, [Path.join path ⟨name⟩]⟩, ?_, rfl⟩
      have all : ofChanges files roots changes = changes.flatMap fun change =>
          inDir (allDirs files roots) change ++ ofFile files roots change := by
        cases changes <;> rfl
      rw [all]
      refine List.mem_flatMap.mpr ⟨_, change, List.mem_append_left _ ?_⟩
      simp [inDir, kept]

end Reports

namespace Settings

variable {settings : Settings} {files : FileSystem} {input : Path}

/-- The standard settings with one directory that is watched. -/
def watching (dir : Path) : Settings := { standard with watch := .forDir dir }

/-- **An input is watched unless it is spelled out of what is configured.** Let the directory of an
input begin with some configured directories, and let what follows each of them never lead out of
it: then it lies at or below a directory that is watched. In general it does so exactly if a
configured directory holds it or it begins with none of them. If there are no links and a watcher
starts, then it looks at just these spots, the input is an entry of that directory, and if this lies
where it is watched, what happens to the input is reported (at a depth to which directories are
followed). -/
theorem input_is_watched (settings : Settings) (files : FileSystem) (input : Path) :
    let dir := inputDir input
    let watched := (settings.watchFor input).dirs
    ((∀ base ∈ settings.watch.dirs, dir.startsWith base = true →
        Component.staysInside 0 (dir.beyond base) = true) →
      files.Holds watched (files.place dir)) ∧
    (files.Holds watched (files.place dir) ↔
      files.Holds settings.watch.dirs (files.place dir) ∨
        ∀ base ∈ settings.watch.dirs, dir.startsWith base = false) ∧
    ∀ {name records config}, input.fileName = some name → files.root.Linkless →
      (settings.watchFor input).resolved files = (records, .ok config) →
      config.dirs = watched.map (fun base => Spot.path (files.place base)) ∧
      (∀ spot node, files.find input = .ok (spot, node) → spot = files.place dir ++ [name]) ∧
      (files.Holds watched (files.place dir) →
        ∀ (later : FileSystem) (kind : EventKind),
          later.root.seen (files.place dir) = some Node.folder →
          (files.place dir).length < Reports.depthLimit →
          ⟨kind, files.place dir ++ [name]⟩ ∈ later.journal →
          ∃ event ∈ Reports.ofChanges later (watched.map files.place) later.journal,
            event.kind = kind) := by
  intro dir watched
  refine ⟨fun inside => ?_, holds_watchFor_iff, fun named linkless ready => ⟨?_, ?_, ?_⟩⟩
  · by_cases covered : ∃ base ∈ settings.watch.dirs, dir.startsWith base = true
    · obtain ⟨base, member, starts⟩ := covered
      have holds := files.prefix_place starts (inside base member starts)
      exact holds_watchFor_iff.mpr (.inl ⟨base, member, holds⟩)
    · refine holds_watchFor_iff.mpr (.inr fun base member => ?_)
      exact Bool.eq_false_iff.mpr fun starts => covered ⟨base, member, starts⟩
  · exact WatchSettings.dirs_of_resolved linkless ready
  · intro spot node found
    rw [← files.place_input named]
    exact FileSystem.place_of_find linkless found
  · rintro ⟨base, member, inside⟩ later kind holder shallow change
    exact Reports.exists_event (List.mem_map_of_mem member) inside holder shallow change

end Settings

/-! ### An input beside and in a watched directory -/

namespace FileSystem

/-- A tree with a file in the current directory, and one in a directory that holds another one. -/
def shelf : FileSystem :=
  ⟨.dir [("w", .dir [("main.rs", .file ⟨[], none⟩ 0),
      ("src", .dir [("app", .dir [] 0), ("main.rs", .file ⟨[], none⟩ 0)] 0)] 0)] 0, ["w"], 0, []⟩

theorem linkless_shelf : shelf.root.Linkless := by
  refine Node.linkless_dir fun outer here => ?_
  obtain rfl := List.mem_singleton.mp here
  refine Node.linkless_dir fun inner there => ?_
  simp only [List.mem_cons, List.not_mem_nil, or_false] at there
  obtain rfl | rfl := there
  · exact Node.linkless_file _ _
  · refine Node.linkless_dir fun entry inside => ?_
    simp only [List.mem_cons, List.not_mem_nil, or_false] at inside
    obtain rfl | rfl := inside
    · exact Node.linkless_dir fun entry none => nomatch none
    · exact Node.linkless_file _ _

/-- The watcher starts in this tree for every input whose directory begins with `src`. -/
theorem resolved_shelf {input : Path}
    (starts : (Settings.inputDir input).startsWith ⟨"src"⟩ = true) :
    ((Settings.watching ⟨"src"⟩).watchFor input).resolved shelf =
      ([Watcher.startRecord ⟨"/w/src"⟩],
        .ok { WatchSettings.standard with
          dirs := [⟨"/w/src"⟩], ignoreDirs := [shelf.resolve ⟨"out"⟩] }) := by
  have steps : Path.steps ⟨"src"⟩ = [.name "src"] := by decide
  have walk : shelf.walk true ⟨"src"⟩ = .ok (.entry ["w", "src"]) := by
    rw [walk_eq_ok, steps]
    exact ⟨⟨by decide, by decide⟩, .enter rfl (by decide) .done⟩
  have canonical : shelf.canonical ⟨"src"⟩ = .ok ⟨"/w/src"⟩ := by
    rw [FileSystem.canonical, walk]
    rfl
  have watched : (Settings.watching ⟨"src"⟩).watchFor input =
      { WatchSettings.forDir ⟨"src"⟩ with ignoreDirs := [⟨"out"⟩] } := by
    have covered : (Settings.watching ⟨"src"⟩).watch.dirs.any
        (Settings.inputDir input).startsWith = true := by
      simp [Settings.watching, WatchSettings.forDir, starts]
    rw [Settings.watchFor, Settings.withDir, if_pos covered]
    rfl
  rw [watched]
  simp only [WatchSettings.resolved, WatchSettings.forDir, WatchSettings.resolveDirs, canonical]
  rfl

end FileSystem

/-- An input that is spelled up and still inside what is watched: a change of it is reported. -/
theorem Settings.input_is_watched_around :
    let input : Path := ⟨"src/app/../main.rs"⟩
    let later := FileSystem.shelf.note [⟨.modify, ["w", "src", "main.rs"]⟩]
    ∃ records config,
      ((watching ⟨"src"⟩).watchFor input).resolved .shelf = (records, .ok config) ∧
        config.dirs = [⟨"/w/src"⟩] ∧
        ∃ event ∈ Reports.ofChanges later [["w", "src"]] later.journal, event.kind = .modify := by
  intro input later
  have ready := FileSystem.resolved_shelf
    (show (inputDir input).startsWith ⟨"src"⟩ = true by decide)
  have inside : ∀ base ∈ (watching ⟨"src"⟩).watch.dirs, (inputDir input).startsWith base = true →
      Component.staysInside 0 ((inputDir input).beyond base) = true := by
    intro base member _
    obtain rfl := List.mem_singleton.mp member
    decide
  have home : FileSystem.shelf.place (inputDir input) = ["w", "src"] := by decide
  have roots : ((watching ⟨"src"⟩).watchFor input).dirs.map FileSystem.shelf.place =
      [["w", "src"]] := by decide
  obtain ⟨holds, -, started⟩ := input_is_watched (watching ⟨"src"⟩) .shelf input
  obtain ⟨-, -, reported⟩ :=
    started (show input.fileName = some "main.rs" by decide) FileSystem.linkless_shelf ready
  have told := reported (holds inside) later .modify
  rw [home, roots] at told
  refine ⟨_, _, ready, rfl, told rfl (by decide) ?_⟩
  exact List.mem_singleton_self _

/-- An input that is spelled out of what is watched lies where nobody looks, and a change of it is
not reported. -/
theorem Settings.input_unwatched_spelled_up :
    let input : Path := ⟨"src/../main.rs"⟩
    let watched := ((watching ⟨"src"⟩).watchFor input).dirs
    FileSystem.shelf.root.Linkless ∧
      FileSystem.shelf.find input = .ok (["w", "main.rs"], .file ⟨[], none⟩ 0) ∧
      (∃ records config,
        ((watching ⟨"src"⟩).watchFor input).resolved .shelf = (records, .ok config) ∧
          config.dirs = [⟨"/w/src"⟩]) ∧
      ¬ FileSystem.shelf.Holds watched (FileSystem.shelf.place (inputDir input)) ∧
      Reports.ofChanges .shelf (watched.map FileSystem.shelf.place)
        [⟨.modify, ["w", "main.rs"]⟩] = [] := by
  intro input watched
  have steps : input.steps = [.name "src", .up, .name "main.rs"] := by decide
  have alone : watched = [⟨"src"⟩] := by decide
  have relative : FileSystem.shelf.start input = ["w"] := if_neg (by decide)
  have walk : FileSystem.shelf.walk true input = .ok (.entry ["w", "main.rs"]) := by
    rw [FileSystem.walk_eq_ok, steps, relative]
    refine ⟨⟨by decide, by decide⟩, .enter rfl (by decide) (.up rfl ?_)⟩
    exact .into (by decide) rfl nofun .done
  have ready := FileSystem.resolved_shelf
    (show (inputDir input).startsWith ⟨"src"⟩ = true by decide)
  refine ⟨FileSystem.linkless_shelf, ?_, ⟨_, _, ready, rfl⟩, ?_, ?_⟩
  · rw [FileSystem.find, FileSystem.land, walk]
    rfl
  · rintro ⟨base, member, inside⟩
    rw [alone] at member
    obtain rfl := List.mem_singleton.mp member
    exact absurd inside (by decide)
  · rw [alone]
    rfl

end LiveReload
