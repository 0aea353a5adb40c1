/-
**Linking the core library of the host.**

Modules are linked against the newest core library next to the program of the host, unless the
settings name one. Of the entries of that directory those count whose name is one of a core library
and whose time can be asked for. Linking changes the settings in two places only, and settings that
name a core library are left as they are, so linking again changes nothing.

* `HostLibrary.Offered`: a core library in a directory, told without the search
  (`mem_librariesIn`);
* `HostLibrary.latest?_eq_some`: the entry that changed last;
* `HostLibrary.newest?_eq_some`, `HostLibrary.newest?_eq_none`: what the search finds;
* `BuildSettings.Links`: what is different in settings that link a library;
* `BuildSettings.linkHost_newest`: what linking does, once and twice.
-/
import LiveReload.Proofs.Files.Operations
import LiveReload.Proofs.Files.Spelled
import LiveReload.Settings.HostLibrary

namespace LiveReload

namespace HostLibrary

/-! ### Names -/

/-- A list that starts and closes with given lists has them one after the other, if the second
cannot begin inside the first. -/
theorem exists_middle {α : Type} {front back whole : List α} (start : front <+: whole)
    (close : back <:+ whole) (absent : ∀ first ∈ back.head?, first ∉ front) :
    ∃ middle, whole = front ++ middle ++ back := by
  obtain ⟨tail, rfl⟩ := start
  obtain ⟨before, whole⟩ := close
  rcases List.append_eq_append_iff.mp whole with ⟨shared, inside, split⟩ | ⟨middle, -, split⟩
  · cases shared with
    | nil => exact ⟨[], by rw [List.append_nil, split, List.nil_append]⟩
    | cons first more =>
      have inFront : first ∈ front := inside ▸ List.mem_append_right before List.mem_cons_self
      exact absurd inFront (absent first (split ▸ rfl))
  · exact ⟨middle, by rw [split, List.append_assoc]⟩

/-- A core library has a name with a given beginning and ending and anything between them. -/
theorem isCoreName_iff (name : String) :
    isCoreName name = true ↔ ∃ middle, name = "libember_core-" ++ middle ++ ".rlib" := by
  unfold isCoreName
  rw [Bool.and_eq_true, List.isPrefixOf_iff_prefix, List.isSuffixOf_iff_suffix]
  constructor
  · rintro ⟨start, close⟩
    have apart : ∀ first ∈ ".rlib".toList.head?, first ∉ "libember_core-".toList := by
      intro first dot
      obtain rfl : '.' = first := Option.some.inj dot
      decide
    obtain ⟨middle, whole⟩ := exists_middle start close apart
    refine ⟨String.ofList middle, String.toList_inj.mp ?_⟩
    rw [whole, String.toList_append, String.toList_append, @String.toList_ofList middle]
  · rintro ⟨middle, rfl⟩
    rw [String.toList_append, String.toList_append]
    exact ⟨⟨_, (List.append_assoc _ _ _).symm⟩, ⟨_, rfl⟩⟩

/-! ### The newest entry -/

theorem le_later (a b : String × Node) :
    a.2.modified ≤ (later a b).2.modified ∧ b.2.modified ≤ (later a b).2.modified := by
  unfold later
  split
  · rename_i earlier
    exact ⟨earlier, Nat.le_refl _⟩
  · rename_i newer
    exact ⟨Nat.le_refl _, Nat.le_of_not_le newer⟩

/-- The entry that is kept is one of those seen, and none of them is newer. -/
theorem foldl_later (first : String × Node) (rest : List (String × Node)) :
    rest.foldl later first ∈ first :: rest ∧
      ∀ entry ∈ first :: rest, entry.2.modified ≤ (rest.foldl later first).2.modified := by
  induction rest generalizing first with
  | nil => simp
  | cons next rest ih =>
    obtain ⟨member, newest⟩ := ih (later first next)
    have kept := newest _ List.mem_cons_self
    obtain ⟨here, there⟩ := le_later first next
    rw [List.foldl_cons]
    constructor
    · rcases List.mem_cons.mp member with same | later'
      · rw [same]
        unfold later
        split <;> simp
      · exact List.mem_cons_of_mem _ (List.mem_cons_of_mem _ later')
    · refine List.forall_mem_cons.mpr ⟨Nat.le_trans here kept, ?_⟩
      exact List.forall_mem_cons.mpr ⟨Nat.le_trans there kept, (List.forall_mem_cons.mp newest).2⟩

theorem latest?_eq_some {entries : List (String × Node)} {entry : String × Node}
    (found : latest? entries = some entry) :
    entry ∈ entries ∧ ∀ other ∈ entries, other.2.modified ≤ entry.2.modified := by
  cases entries with
  | nil => cases found
  | cons first rest =>
    obtain rfl := Option.some.inj found
    exact foldl_later first rest

theorem latest?_eq_none {entries : List (String × Node)} :
    latest? entries = none ↔ entries = [] := by
  cases entries <;> simp [latest?]

/-! ### The search -/

/-- A core library in a directory, with its name and what it is. -/
structure Offered (files : FileSystem) (dir : Path) (name : String) (node : Node) : Prop where
  listed : ∃ spot folder, files.find dir = .ok (spot, folder) ∧ (name, node) ∈ folder.entries
  named : ∃ middle, name = "libember_core-" ++ middle ++ ".rlib"
  /-- The time of an entry can be asked for if its whole path is not too long. -/
  readable : FileSystem.tooLong (dir.join ⟨name⟩) = false

theorem mem_librariesIn {dir : Path} {entries : List (String × Node)} {name : String}
    {node : Node} :
    (name, node) ∈ librariesIn dir entries ↔
      (name, node) ∈ entries ∧ (∃ middle, name = "libember_core-" ++ middle ++ ".rlib") ∧
        FileSystem.tooLong (dir.join ⟨name⟩) = false := by
  unfold librariesIn
  rw [List.mem_filter, Bool.and_eq_true, isCoreName_iff, Bool.not_eq_true']

variable {files : FileSystem} {dir : Path}

theorem offered_iff {spot : Spot} {folder : Node} (found : files.find dir = .ok (spot, folder))
    {name : String} {node : Node} :
    Offered files dir name node ↔ (name, node) ∈ librariesIn dir folder.entries := by
  rw [mem_librariesIn]
  constructor
  · rintro ⟨⟨other, same, again, member⟩, named, readable⟩
    rw [found] at again
    cases again
    exact ⟨member, named, readable⟩
  · rintro ⟨member, named, readable⟩
    exact ⟨⟨spot, folder, found, member⟩, named, readable⟩

/-- The search finds a core library that no other is newer than. -/
theorem newest?_eq_some {library : Path} (found : newest? files dir = some library) :
    ∃ name node, Offered files dir name node ∧ library = dir.join ⟨name⟩ ∧
      ∀ other held, Offered files dir other held → held.modified ≤ node.modified := by
  unfold newest? at found
  cases listing : files.find dir with
  | error fault => rw [listing] at found; cases found
  | ok entry =>
    obtain ⟨spot, folder⟩ := entry
    rw [listing] at found
    obtain ⟨⟨name, node⟩, latest, rfl⟩ := Option.map_eq_some_iff.mp found
    obtain ⟨member, newest⟩ := latest?_eq_some latest
    refine ⟨name, node, (offered_iff listing).mpr member, rfl, fun other held offered => ?_⟩
    exact newest (other, held) ((offered_iff listing).mp offered)

/-- The search finds nothing exactly if there is no core library. -/
theorem newest?_eq_none :
    newest? files dir = none ↔ ¬ ∃ name node, Offered files dir name node := by
  unfold newest?
  cases listing : files.find dir with
  | error fault =>
    refine iff_of_true rfl ?_
    rintro ⟨name, node, ⟨spot, folder, found, -⟩, -, -⟩
    rw [listing] at found
    cases found
  | ok entry =>
    obtain ⟨spot, folder⟩ := entry
    simp only [Option.map_eq_none_iff, latest?_eq_none, offered_iff listing]
    rw [List.eq_nil_iff_forall_not_mem]
    constructor
    · rintro none ⟨name, node, member⟩
      exact none (name, node) member
    · exact fun none entry member => none ⟨entry.1, entry.2, member⟩

end HostLibrary

/-! ### Settings -/

/-- A path is added only if no spelling of it is there. -/
theorem Path.addTo_eq (path : Path) (paths : List Path) :
    path.addTo paths = paths ∧ (∃ other ∈ paths, other.components = path.components) ∨
      path.addTo paths = paths ++ [path] ∧ ∀ other ∈ paths, other.components ≠ path.components := by
  unfold addTo
  by_cases there : paths.any path.same = true
  · rw [if_pos there]
    obtain ⟨other, member, same⟩ := List.any_eq_true.mp there
    exact .inl ⟨rfl, other, member, (of_decide_eq_true same).symm⟩
  · rw [if_neg there]
    refine .inr ⟨rfl, fun other member same => there ?_⟩
    exact List.any_eq_true.mpr ⟨other, member, decide_eq_true same.symm⟩

namespace BuildSettings

/-- Settings that link a core library in `dir` and are else as they were. -/
structure Links (settings linked : BuildSettings) (dir library : Path) : Prop where
  externs : ∀ crate, linked.toolchain.externs.find? crate =
    if crate = "ember_core" then some library else settings.toolchain.externs.find? crate
  libraryDirs :
    linked.toolchain.libraryDirs = settings.toolchain.libraryDirs ∧
        (∃ other ∈ settings.toolchain.libraryDirs, other.components = dir.components) ∨
      linked.toolchain.libraryDirs = settings.toolchain.libraryDirs ++ [dir] ∧
        ∀ other ∈ settings.toolchain.libraryDirs, other.components ≠ dir.components
  others : linked =
    { settings with
      toolchain :=
        { settings.toolchain with
          externs := linked.toolchain.externs
          libraryDirs := linked.toolchain.libraryDirs } }

variable {settings : BuildSettings} {files : FileSystem} {exeDir : Path}

theorem linkHost_of_has (named : settings.toolchain.externs.has HostLibrary.crate = true) :
    settings.linkHost files exeDir = settings := if_pos named

theorem linkHost_of_none (none : HostLibrary.newest? files (HostLibrary.dirOf exeDir) = none) :
    settings.linkHost files exeDir = settings := by
  unfold linkHost
  split
  · rfl
  · simp only [none]

theorem linkHost_of_some (unnamed : settings.toolchain.externs.has HostLibrary.crate = false)
    {library : Path}
    (found : HostLibrary.newest? files (HostLibrary.dirOf exeDir) = some library) :
    Links settings (settings.linkHost files exeDir) (HostLibrary.dirOf exeDir) library := by
  have linked : settings.linkHost files exeDir =
      { settings with
        toolchain :=
          { settings.toolchain with
            externs := settings.toolchain.externs.put HostLibrary.crate library
            libraryDirs :=
              (HostLibrary.dirOf exeDir).addTo settings.toolchain.libraryDirs } } := by
    unfold linkHost
    rw [if_neg (Bool.eq_false_iff.mp unnamed)]
    simp only [found]
  rw [linked]
  exact ⟨fun crate => settings.toolchain.externs.find?_put _ crate library,
    Path.addTo_eq _ _, rfl⟩

/-- Settings that link a core library name it. -/
theorem Links.has {linked : BuildSettings} {dir library : Path}
    (links : Links settings linked dir library) :
    linked.toolchain.externs.has "ember_core" = true := by
  rw [Externs.has, links.externs]
  rfl

/-- Linking leaves the settings as they are, for one of two reasons, or links a library. -/
theorem linkHost_cases (settings : BuildSettings) (files : FileSystem) (exeDir : Path) :
    let deps := exeDir.join ⟨"deps"⟩
    settings.linkHost files exeDir = settings ∧
        (settings.toolchain.externs.has "ember_core" = true ∨
          ¬ ∃ name node, HostLibrary.Offered files deps name node) ∨
      settings.toolchain.externs.has "ember_core" = false ∧
        ∃ name node, HostLibrary.Offered files deps name node ∧
          (∀ other held, HostLibrary.Offered files deps other held →
            held.modified ≤ node.modified) ∧
          Links settings (settings.linkHost files exeDir) deps (deps.join ⟨name⟩) := by
  intro deps
  cases named : settings.toolchain.externs.has "ember_core" with
  | true => exact .inl ⟨linkHost_of_has named, .inl rfl⟩
  | false =>
    cases found : HostLibrary.newest? files deps with
    | none => exact .inl ⟨linkHost_of_none found, .inr (HostLibrary.newest?_eq_none.mp found)⟩
    | some library =>
      obtain ⟨name, node, here, rfl, newest⟩ := HostLibrary.newest?_eq_some found
      exact .inr ⟨rfl, name, node, here, newest, linkHost_of_some named found⟩

/-- **Linking the core library of the host.** Settings stay as they are exactly if they name a core
library or none is offered next to the program. Otherwise they link one that no other is newer than,
its directory is among those of libraries, where it is added only if it is not there, and nothing
else is changed. Settings that name a core library stay as they are whatever is linked later, and
linking again changes nothing. -/
theorem linkHost_newest (settings : BuildSettings) (files : FileSystem) (exeDir : Path) :
    let deps := exeDir.join ⟨"deps"⟩
    let linked := settings.linkHost files exeDir
    let named := settings.toolchain.externs.has "ember_core"
    (linked = settings ↔ named = true ∨ ¬ ∃ name node, HostLibrary.Offered files deps name node) ∧
      (named = false → (∃ name node, HostLibrary.Offered files deps name node) →
        ∃ name node, HostLibrary.Offered files deps name node ∧
          (∀ other held, HostLibrary.Offered files deps other held →
            held.modified ≤ node.modified) ∧
          Links settings linked deps (deps.join ⟨name⟩)) ∧
      (linked.toolchain.externs.has "ember_core" = true →
        ∀ later elsewhere, linked.linkHost later elsewhere = linked) ∧
      linked.linkHost files exeDir = linked := by
  intro deps linked named
  have twice : linked.toolchain.externs.has "ember_core" = true →
      ∀ later elsewhere, linked.linkHost later elsewhere = linked :=
    fun has later elsewhere => linkHost_of_has has
  rcases linkHost_cases settings files exeDir with
    ⟨same, reason⟩ | ⟨unnamed, name, node, here, newest, links⟩
  · refine ⟨iff_of_true same reason, fun unnamed offered => ?_, twice, ?_⟩
    · rcases reason with has | none
      · exact absurd has (Bool.eq_false_iff.mp unnamed)
      · exact absurd offered none
    · exact congrArg (linkHost · files exeDir) same
  · refine ⟨iff_of_false (fun same => ?_) (not_or.mpr ⟨Bool.eq_false_iff.mp unnamed, ?_⟩),
      fun _ _ => ⟨name, node, here, newest, links⟩, twice, linkHost_of_has links.has⟩
    · exact Bool.eq_false_iff.mp unnamed (same ▸ links.has)
    · exact fun none => none ⟨name, node, here⟩

end BuildSettings

/-! ### A directory of libraries -/

namespace HostLibrary

/-- Two core libraries, the second one newer, and a library that is newer still. -/
def shelf : List (String × Node) :=
  [("libember_core-a.rlib", .file (.ofText "") 1), ("libember_core-b.rlib", .file (.ofText "") 3),
    ("liblog-9.rlib", .file (.ofText "") 9)]

/-- The libraries in a directory next to a program. -/
def shed : FileSystem := ⟨.dir [("t", .dir [("deps", .dir shelf 0)] 0)] 0, [], 0, []⟩

theorem find_shed : shed.find ⟨"t/deps"⟩ = .ok (["t", "deps"], .dir shelf 0) := by
  have steps : Path.steps ⟨"t/deps"⟩ = [.name "t", .name "deps"] := by decide
  refine FileSystem.find_eq_ok.mpr
    ⟨FileSystem.land_eq_ok.mpr ⟨by decide, ⟨by decide, by decide⟩, ?_⟩, rfl⟩
  rw [steps]
  exact .enter rfl (by decide) (.enter rfl (by decide) .done)

theorem offered_shed (name : String) (node : Node) :
    Offered shed ⟨"t/deps"⟩ name node ↔
      (name, node) = ("libember_core-a.rlib", .file (.ofText "") 1) ∨
        (name, node) = ("libember_core-b.rlib", .file (.ofText "") 3) := by
  have libraries : librariesIn ⟨"t/deps"⟩ shelf =
      [("libember_core-a.rlib", .file (.ofText "") 1),
        ("libember_core-b.rlib", .file (.ofText "") 3)] := by rfl
  rw [offered_iff find_shed, Node.entries, libraries, List.mem_cons, List.mem_singleton]

end HostLibrary

/-- The newer core library is linked, and the one that is newer still does not count. -/
theorem BuildSettings.linkHost_newest_shed :
    let linked := BuildSettings.standard.linkHost HostLibrary.shed ⟨"t"⟩
    linked.toolchain.externs.find? "ember_core" = some ⟨"t/deps/libember_core-b.rlib"⟩ ∧
      linked.toolchain.libraryDirs = [⟨"t/deps"⟩] ∧
      linked.linkHost HostLibrary.shed ⟨"t"⟩ = linked := by
  intro linked
  obtain ⟨-, links, -, twice⟩ := linkHost_newest .standard HostLibrary.shed ⟨"t"⟩
  have deps : (Path.mk "t").join ⟨"deps"⟩ = ⟨"t/deps"⟩ := by decide
  rw [deps] at links
  obtain ⟨name, node, offered, newest, linked⟩ :=
    links (by decide) ⟨_, _, (HostLibrary.offered_shed _ _).mpr (.inl rfl)⟩
  have latest := newest _ _ ((HostLibrary.offered_shed _ _).mpr (.inr rfl))
  rcases (HostLibrary.offered_shed _ _).mp offered with same | same
  · cases same
    exact absurd latest (by decide)
  · cases same
    refine ⟨linked.externs "ember_core", ?_, twice⟩
    rcases linked.libraryDirs with ⟨-, other, member, -⟩ | ⟨added, -⟩
    · exact absurd member List.not_mem_nil
    · exact added

end LiveReload
