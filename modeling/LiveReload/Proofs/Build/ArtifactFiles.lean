/-
**The artifacts of a session as files.**

All artifacts of a session are named in one directory: their paths share all steps but the last, and
the last step is the name. So what stands at the paths is a function of the count, and writing or
removing one artifact changes the function at one count, wherever the directory is and whatever
links lead to it.

* `FileSystem.leaf?`: what stands at a path and could be removed;
* `ArtifactNames.HomeAt`: where the directory of the artifacts is;
* `ArtifactNames.Shows`: what stands at all paths of a session, also after the directories above
  them are made;
* `Shows.cleared`, `Shows.stored`: the function updated at one count.
-/
import LiveReload.Proofs.Build.FreshNames
import LiveReload.Proofs.Files.Operations

namespace LiveReload

theorem Node.seen_leaf (root : Node) (spot : Spot) :
    (root.seen spot).filter (fun node => !node.isDir) =
      (root.at? spot).filter fun node => !node.isDir := by
  rw [seen]
  cases root.at? spot with
  | none => rfl
  | some node =>
    cases leaf : node.isDir
    · rw [Option.map_some, outline_of_not_dir leaf]
    · simp [Option.filter, leaf]

namespace FileSystem

/-- What stands at a path and is no directory, which is what can be removed there. A link at the end
is not followed. -/
def leaf? (files : FileSystem) (path : Path) : Option Node :=
  match files.landClosed path with
  | .ok (.entry spot) => (files.root.at? spot).filter fun node => !node.isDir
  | _ => none

/-- The files without what can be removed at a path. -/
def cleared (files : FileSystem) (path : Path) : FileSystem :=
  match files.remove path with
  | .ok files => files
  | .error _ => files

/-- Where nothing can be removed, nothing is. -/
theorem cleared_of_no_leaf {files : FileSystem} {path : Path} (absent : files.leaf? path = none) :
    files.cleared path = files := by
  unfold cleared
  cases removed : files.remove path with
  | error fault => rfl
  | ok after =>
    obtain ⟨named, spot, node, landed, found, leaf, -⟩ := remove_eq_ok.mp removed
    rw [leaf?, landClosed_of_not_open named, landed] at absent
    dsimp only at absent
    rw [← Node.seen_leaf, found] at absent
    simp [leaf] at absent

theorem cleared_of_file {files : FileSystem} {path : Path} {spot : Spot} {content : Content}
    {modified : Nat} (landed : files.landClosed path = .ok (.entry spot))
    (found : files.root.at? spot = some (.file content modified)) (named : path.endsOpen = false) :
    files.cleared path =
      { files with root := files.root.eraseAt spot }.note [⟨.remove, spot⟩] := by
  simp [cleared, remove, landed, bind, Except.bind, entryOf, found, named]

end FileSystem

namespace Node

theorem exists_file {node : Node} (file : node.isFile = true) :
    ∃ content modified, node = .file content modified := by
  cases node with
  | file content modified => exact ⟨content, modified, rfl⟩
  | _ => cases file

end Node

namespace ArtifactNames

variable {names : ArtifactNames} {files after : FileSystem} {home : Spot} {count : Nat}
  {view : Nat → Option Node} {node : Node}

/-- The steps to the directory of the artifacts. -/
def trunk (names : ArtifactNames) : List Step :=
  (Path.pieces names.lead).dropLast.filterMap Step.ofPiece?

/-- Where the walk to an artifact begins. -/
def base (names : ArtifactNames) (files : FileSystem) : Spot :=
  if names.lead.head? = some '/' then [] else files.current

/-- The directory of the artifacts is at a spot. -/
def HomeAt (names : ArtifactNames) (files : FileSystem) (home : Spot) : Prop :=
  files.root.Leads true Landing.linkLimit (names.base files) names.trunk (.entry home)

/-- The system can take the path of an artifact. -/
def fits (names : ArtifactNames) (count : Nat) : Bool :=
  !FileSystem.tooLong (names.path count) && !names.lead.contains (Char.ofNat 0) &&
    (names.name count).utf8ByteSize ≤ Landing.nameLimit

theorem endsOpen_path : (names.path count).endsOpen = false := by
  simp [Path.endsOpen, toList_path, tag, List.getLast?_append, List.getLast?_cons]

theorem ofPiece?_name :
    Step.ofPiece? (names.name count).toList = some (.name (names.name count)) := by
  have shape := names.name_shape count
  unfold Step.ofPiece?
  split
  · simp_all
  · split
    · simp_all
    · split
      · simp_all
      · rw [String.ofList_toList]

theorem steps_path : (names.path count).steps = names.trunk ++ [.name (names.name count)] := by
  rw [Path.steps, endsOpen_path, pieces_path, List.filterMap_append, trunk]
  simp [ofPiece?_name]

theorem start_path : files.start (names.path count) = names.base files := by
  rw [FileSystem.start, base, Path.isAbsolute, toList_path]
  cases names.lead with
  | nil => simp [tag]
  | cons c rest => simp

theorem walkable_path : FileSystem.Walkable (names.path count) ↔ Char.ofNat 0 ∉ names.lead := by
  have text : (names.path count).text.isEmpty = false := by
    rw [← Bool.not_eq_true, String.isEmpty_iff, ← String.toList_eq_nil_iff, toList_path]
    simp [tag]
  rw [FileSystem.Walkable, toList_path, List.mem_append, not_or]
  exact ⟨fun plain => plain.2.1, fun plain => ⟨text, plain, notMem_tag rfl (by decide) names count⟩⟩

/-- The walk to an artifact goes to the directory of the artifacts, and then to a name. -/
theorem land_path {through : Bool} {landing : Landing}
    (landed : files.land through (names.path count) = .ok landing) :
    ∃ home links, names.HomeAt files home ∧
      files.root.Leads through links home [.name (names.name count)] landing ∧
      FileSystem.tooLong (names.path count) = false ∧ Char.ofNat 0 ∉ names.lead := by
  obtain ⟨short, walkable, walk⟩ := FileSystem.land_eq_ok.mp landed
  rw [steps_path, start_path] at walk
  obtain ⟨home, links, trunk, last⟩ := walk.split
  exact ⟨home, links, trunk, last, short, walkable_path.mp walkable⟩

theorem landClosed_path :
    files.landClosed (names.path count) = files.land false (names.path count) := by
  rw [FileSystem.landClosed_of_not_open endsOpen_path]

theorem HomeAt.unique {other : Spot} (first : names.HomeAt files home)
    (second : names.HomeAt files other) : home = other := by
  have same := first.follow.symm.trans second.follow
  simpa using same

theorem fits_iff : names.fits count = true ↔ FileSystem.tooLong (names.path count) = false ∧
    Char.ofNat 0 ∉ names.lead ∧ (names.name count).utf8ByteSize ≤ Landing.nameLimit := by
  simp [fits, and_assoc]

theorem HomeAt.land (at_home : names.HomeAt files home) (fits : names.fits count = true)
    (found : files.root.seen (home ++ [names.name count]) = some node) :
    files.land false (names.path count) = .ok (.entry (home ++ [names.name count])) := by
  obtain ⟨short, plain, fits⟩ := fits_iff.mp fits
  rw [FileSystem.land_eq_ok, steps_path, start_path]
  refine ⟨short, walkable_path.mpr plain, at_home.concat fun links => ?_⟩
  by_cases link : ∃ target modified, node = .link target modified
  · obtain ⟨target, modified, rfl⟩ := link
    exact .stop fits found rfl
  · exact .into fits found (fun target modified same => link ⟨target, modified, same⟩) .done

/-- What stands at the path of an artifact is what its directory holds by its name. -/
theorem HomeAt.leaf? (at_home : names.HomeAt files home) (count : Nat) :
    files.leaf? (names.path count) =
      if names.fits count then
        (files.root.seen (home ++ [names.name count])).filter fun node => !node.isDir
      else none := by
  rw [FileSystem.leaf?, landClosed_path]
  cases landed : files.land false (names.path count) with
  | ok landing =>
    obtain ⟨other, links, there, last, short, plain⟩ := land_path landed
    obtain rfl := at_home.unique there
    obtain ⟨rfl, absent⟩ | ⟨rfl, node, found⟩ := last.last nofun
    · simp [absent]
    · rw [if_pos (fits_iff.mpr ⟨short, plain, last.fits⟩), Node.seen_leaf]
  | error fault =>
    by_cases fits : names.fits count = true
    · cases found : files.root.seen (home ++ [names.name count]) with
      | none => simp
      | some node =>
        rw [at_home.land fits found] at landed
        cases landed
    · rw [if_neg fits]

/-- Something at the path of an artifact tells where the artifacts are. -/
theorem exists_home (found : files.leaf? (names.path count) = some node) :
    ∃ home, names.HomeAt files home ∧ names.fits count = true ∧
      files.root.seen (home ++ [names.name count]) = some node := by
  have landed : ∃ spot, files.land false (names.path count) = .ok (.entry spot) := by
    rw [FileSystem.leaf?, landClosed_path] at found
    split at found
    · exact ⟨_, ‹_›⟩
    · cases found
  obtain ⟨spot, landed⟩ := landed
  obtain ⟨home, links, at_home, _⟩ := land_path landed
  rw [at_home.leaf?] at found
  split at found
  · exact ⟨home, at_home, ‹_›, (Option.filter_eq_some_iff.mp found).1⟩
  · cases found

/-! ### The artifacts at all counts -/

/-- What stands at the paths of all counts, also when directories above them are made later on: no
artifact is hidden behind a directory that is missing. -/
def Shows (names : ArtifactNames) (view : Nat → Option Node) (files : FileSystem) : Prop :=
  ∀ grown, files.Growth grown → ∀ count, grown.leaf? (names.path count) = view count

namespace Shows

theorem leaf (shows : names.Shows view files) (count : Nat) :
    files.leaf? (names.path count) = view count := shows files (.refl files) count

theorem grown (shows : names.Shows view files) (growth : files.Growth after) :
    names.Shows view after := fun more further => shows more (growth.trans further)

end Shows

/-- Where no file anywhere has the name of an artifact, nothing stands and nothing is hidden. -/
theorem shows_nothing (nameless : ∀ home count node,
    files.root.seen (home ++ [names.name count]) = some node → node.isDir = true) :
    names.Shows (fun _ => none) files := by
  intro grown growth count
  cases stands : grown.leaf? (names.path count) with
  | none => rfl
  | some node =>
    obtain ⟨home, at_home, fits, _⟩ := exists_home stands
    rw [at_home.leaf?, if_pos fits, growth.seen_leaf, Option.filter_eq_some_iff] at stands
    have isDir := nameless home count node stands.1
    rw [isDir] at stands
    cases stands.2

/-- Where the directory of the artifacts is there already, nothing is hidden. -/
theorem HomeAt.shows (at_home : names.HomeAt files home)
    (stands : ∀ count, files.leaf? (names.path count) = view count) : names.Shows view files := by
  intro grown growth count
  have there : names.HomeAt grown home := by
    have walk := growth.leads at_home
    rwa [HomeAt, base, growth.current]
  rw [← stands, there.leaf?, at_home.leaf?, growth.seen_leaf]

namespace Shows

/-- The directory of the artifacts changes at the name of one artifact, where no directory and no
link was or is. -/
theorem changed (shows : names.Shows view files) (at_home : names.HomeAt files home)
    (fits : names.fits count = true) {now : Option Node}
    (old : ∀ node, files.root.seen (home ++ [names.name count]) = some node → node.isFile = true)
    (new : ∀ node, now = some node → node.isFile = true) (current : after.current = files.current)
    (update : after.root.seen =
      Function.update files.root.seen (home ++ [names.name count]) now) :
    names.Shows (Function.update view count now) after := by
  have there : names.HomeAt after home := by
    have kept (spot : Spot) (node : Node) (found : files.root.seen spot = some node) :
        after.root.seen spot = some node ∨
          spot = home ++ [names.name count] ∧ node.isFile = true := by
      by_cases same : spot = home ++ [names.name count]
      · subst same
        exact .inr ⟨rfl, old node found⟩
      · rw [update, Function.update_of_ne same]
        exact .inl found
    rw [HomeAt, base, current]
    exact at_home.mono (· = home ++ [names.name count]) kept (by simp)
  refine there.shows fun other => ?_
  rw [there.leaf?, update]
  by_cases same : other = count
  · subst same
    rw [Function.update_self, Function.update_self, if_pos fits]
    cases now with
    | none => rfl
    | some node =>
      obtain ⟨content, modified, rfl⟩ := Node.exists_file (new node rfl)
      rw [Option.filter_some]
      rfl
  · have apart : home ++ [names.name other] ≠ home ++ [names.name count] := by
      intro equal
      exact same (name_inj rfl (by simpa using equal)).2
    rw [Function.update_of_ne apart, Function.update_of_ne same, ← shows.leaf other,
      at_home.leaf?]

/-- A file at the path of an artifact is removed, and nothing else of the session. -/
theorem cleared (shows : names.Shows view files) (count : Nat)
    (plain : ∀ node, view count = some node → node.isFile = true) :
    names.Shows (Function.update view count none) (files.cleared (names.path count)) := by
  have stands := shows.leaf count
  cases held : view count with
  | none =>
    have unchanged : Function.update view count none = view := by
      rw [← held, Function.update_eq_self]
    rw [unchanged, FileSystem.cleared_of_no_leaf (stands.trans held)]
    exact shows
  | some node =>
    rw [held] at stands
    obtain ⟨home, at_home, fits, found⟩ := exists_home stands
    obtain ⟨content, modified, rfl⟩ := Node.exists_file (plain node held)
    have landed := landClosed_path.trans (at_home.land fits found)
    rw [FileSystem.cleared_of_file landed (Node.at?_of_seen_file found) endsOpen_path]
    refine shows.changed at_home fits ?_ nofun rfl (Node.seen_eraseAt (Node.seen_holder found) ?_)
    · rw [found]
      rintro _ ⟨⟩
      rfl
    · rw [found]
      exact nofun

theorem put (shows : names.Shows view files) (at_home : names.HomeAt files home)
    (fits : names.fits count = true) (holder : files.root.seen home = some .folder)
    (old : ∀ node, files.root.seen (home ++ [names.name count]) = some node → node.isFile = true)
    (content : Content) (changes : List Change) :
    names.Shows (Function.update view count (some (.file content files.clock)))
      ((files.put (home ++ [names.name count]) (.file content files.clock)).note changes) := by
  refine shows.changed at_home fits old ?_ rfl (Node.seen_insertAt holder ?_ rfl)
  · rintro _ ⟨⟩
    rfl
  · intro folder
    cases old _ folder

/-- A file is stored at the path of an artifact, and nothing else of the session changes. -/
theorem stored (shows : names.Shows view files) (count : Nat)
    (plain : ∀ node, view count = some node → node.isFile = true) {join : Content → Content}
    (stored : files.store (names.path count) join = .ok after) :
    ∃ content modified, names.Shows (Function.update view count (some (.file content modified)))
      after := by
  unfold FileSystem.store at stored
  obtain ⟨landing, landed, stored⟩ := FileSystem.bind_eq_ok.mp stored
  obtain ⟨home, links, at_home, last, short, walkable⟩ := land_path landed
  have fits := fits_iff.mpr ⟨short, walkable, last.fits⟩
  have solid (target : Path) (modified : Nat) :
      files.root.seen (home ++ [names.name count]) ≠ some (.link target modified) := by
    intro link
    have stands := shows.leaf count
    rw [at_home.leaf?, if_pos fits, link] at stands
    cases plain _ stands.symm
  obtain ⟨rfl, absent⟩ | ⟨rfl, _⟩ := last.last fun _ => solid
  · obtain rfl := Except.ok.inj stored
    refine ⟨_, _, shows.put at_home fits last.holder ?_ _ _⟩
    intro node found
    rw [absent] at found
    cases found
  · dsimp only at stored
    split at stored
    · obtain rfl := Except.ok.inj stored
      refine ⟨_, _, shows.put at_home fits last.holder ?_ _ _⟩
      intro node found
      rw [Node.seen, ‹files.root.at? _ = _›] at found
      cases found
      rfl
    · cases stored

end Shows

end ArtifactNames

end LiveReload
