/-
**Which files of a tree a search for sources finds.**

The search goes down a tree and leaves whole parts of it out. What it finds can be said of each file
on its own: every entry on the way down to the file is kept, and every directory on the way can be
read. In a tree whose directories have no name twice it finds every such file once.

* `Node.Tidy`: a tree in which names are names, each of them one entry of its directory;
* `Sources.Waypoint`, `Sources.way`: the entries on the way to a file, as they are spelled;
* `Sources.mem_filesOf`: the files of a tree, one by one;
* `Sources.components_spelled`: their paths, which tell them apart;
* `Sources.nodup_filesOf`: no file is found twice.
-/
import LiveReload.Files.Sources
import LiveReload.Proofs.Files.RawPaths
import Mathlib.Data.List.Nodup

namespace LiveReload

/-! ### Trees -/

/-- A name that an entry can have. -/
structure IsName (name : String) : Prop where
  plain : '/' ∉ name.toList
  told : Path.isIdle name.toList = false
  level : name.toList ≠ ['.', '.']

instance (name : String) : Decidable (IsName name) :=
  decidable_of_iff ('/' ∉ name.toList ∧ Path.isIdle name.toList = false ∧ name.toList ≠ ['.', '.'])
    ⟨fun ⟨plain, told, level⟩ => ⟨plain, told, level⟩, fun ⟨plain, told, level⟩ =>
      ⟨plain, told, level⟩⟩

namespace Node

/-- In every directory of the tree, entries have names, and different ones. -/
def Tidy (root : Node) : Prop :=
  ∀ spot entries modified, root.at? spot = some (.dir entries modified) →
    (entries.map Prod.fst).Nodup ∧ ∀ entry ∈ entries, IsName entry.1

/-- Names lead to a file. -/
def HasFile (root : Node) (names : Spot) : Prop :=
  ∃ content modified, root.at? names = some (.file content modified)

variable {root node : Node} {entries : List (String × Node)} {modified : Nat} {name : String}
  {names : Spot}

theorem Tidy.at? (tidy : root.Tidy) {spot : Spot} (found : root.at? spot = some node) :
    node.Tidy := by
  intro below entries modified inside
  refine tidy (spot ++ below) entries modified ?_
  rw [at?_append, found, Option.bind_some, inside]

theorem tidy_of_bare (bare : node.isDir = false) : node.Tidy := by
  intro spot entries modified found
  cases node with
  | dir => cases bare
  | _ => cases spot <;> simp [Node.at?, child?, Node.entries] at found

theorem tidy_dir (once : (entries.map Prod.fst).Nodup)
    (inside : ∀ entry ∈ entries, IsName entry.1 ∧ entry.2.Tidy) : (dir entries modified).Tidy := by
  intro spot others stamp found
  cases spot with
  | nil =>
    obtain ⟨rfl, rfl⟩ : entries = others ∧ modified = stamp := by simpa [Node.at?] using found
    exact ⟨once, fun entry member => (inside entry member).1⟩
  | cons name rest =>
    rw [Node.at?, child?, Node.entries, Option.bind_eq_some_iff] at found
    obtain ⟨child, known, there⟩ := found
    obtain ⟨before, after, rfl, -⟩ := List.lookup_eq_some_iff.mp known
    exact (inside (name, child) (by simp)).2 rest others stamp there

theorem Tidy.nodup (tidy : (dir entries modified).Tidy) : (entries.map Prod.fst).Nodup :=
  (tidy [] entries modified rfl).1

theorem Tidy.isName (tidy : (dir entries modified).Tidy) (member : (name, node) ∈ entries) :
    IsName name :=
  (tidy [] entries modified rfl).2 _ member

/-- In a directory with different names every entry is found by its name. -/
theorem lookup_eq_some_iff (once : (entries.map Prod.fst).Nodup) :
    entries.lookup name = some node ↔ (name, node) ∈ entries := by
  constructor
  · intro found
    obtain ⟨before, after, rfl, -⟩ := List.lookup_eq_some_iff.mp found
    simp
  · intro member
    obtain ⟨before, after, rfl⟩ := List.append_of_mem member
    refine List.lookup_eq_some_iff.mpr ⟨before, after, rfl, fun entry earlier => ?_⟩
    rw [List.map_append, List.map_cons, List.nodup_append] at once
    exact bne_iff_ne.mpr (Ne.symm (once.2.2 entry.1 (List.mem_map_of_mem earlier) name
      List.mem_cons_self))

theorem Tidy.child (tidy : (dir entries modified).Tidy) (member : (name, node) ∈ entries) :
    node.Tidy := by
  have found : (dir entries modified).at? [name] = some node := by
    rw [Node.at?, child?, Node.entries, (lookup_eq_some_iff tidy.nodup).mpr member]
    rfl
  exact tidy.at? found

theorem hasFile_file (content : Content) (modified : Nat) :
    (file content modified).HasFile names ↔ names = [] := by
  cases names with
  | nil => simp [HasFile, Node.at?]
  | cons name rest => simp [HasFile, Node.at?, child?, Node.entries]

theorem not_hasFile_link (target : Path) (modified : Nat) :
    ¬ (link target modified).HasFile names := by
  cases names <;> simp [HasFile, Node.at?, child?, Node.entries]

/-- A directory has the files of its entries. -/
theorem hasFile_dir (tidy : (dir entries modified).Tidy) :
    (dir entries modified).HasFile names ↔
      ∃ name node rest, names = name :: rest ∧ (name, node) ∈ entries ∧ node.HasFile rest := by
  cases names with
  | nil => simp [HasFile, Node.at?]
  | cons name rest =>
    constructor
    · rintro ⟨content, stamp, found⟩
      rw [Node.at?, child?, Node.entries, Option.bind_eq_some_iff] at found
      obtain ⟨node, known, inside⟩ := found
      have member := (lookup_eq_some_iff tidy.nodup).mp known
      exact ⟨name, node, rest, rfl, member, content, stamp, inside⟩
    · rintro ⟨_, node, _, same, member, content, stamp, inside⟩
      obtain ⟨rfl, rfl⟩ := List.cons.inj same
      refine ⟨content, stamp, ?_⟩
      rw [Node.at?, child?, Node.entries, (lookup_eq_some_iff tidy.nodup).mpr member]
      exact inside

/-- Names on the way to a file are those of entries. -/
theorem Tidy.isName_of_hasFile (tidy : node.Tidy) (file : node.HasFile names) :
    ∀ name ∈ names, IsName name := by
  induction names generalizing node with
  | nil => exact fun _ none => nomatch none
  | cons first rest ih =>
    cases node with
    | file => exact absurd ((hasFile_file _ _).mp file) (List.cons_ne_nil _ _)
    | link => exact absurd file (not_hasFile_link _ _)
    | dir entries modified =>
      obtain ⟨_, child, _, same, member, inside⟩ := (hasFile_dir tidy).mp file
      obtain ⟨rfl, rfl⟩ := List.cons.inj same
      exact List.forall_mem_cons.mpr ⟨tidy.isName member, ih (tidy.child member) inside⟩

end Node

/-! ### Ways -/

namespace Sources

/-- The path of what names lead to from `start`. -/
def spelled (start : Path) : Spot → Path
  | [] => start
  | name :: rest => spelled (start.join ⟨name⟩) rest

/-- An entry on the way from a start to a file: how far below the start it is, its name, and its
path as it is spelled from there. -/
structure Waypoint where
  depth : Nat
  name : String
  path : Path

/-- The entries on the way below `above`. -/
def wayBelow (depth : Nat) (above : Path) : Spot → List Waypoint
  | [] => []
  | name :: rest =>
    ⟨depth + 1, name, above.join ⟨name⟩⟩ :: wayBelow (depth + 1) (above.join ⟨name⟩) rest

/-- The entries on the way from a start to what names lead to, both ends included. -/
def way (start : Path) (names : Spot) : List Waypoint :=
  ⟨0, startName start, start⟩ :: wayBelow 0 start names

/-- The search does not leave the entry out: it is not named as directories of build results are,
its path does not begin with one that is skipped, and it is not hidden, unless the search starts
there. Where the search starts, an entry may be exempt from the first condition. -/
structure Waypoint.Kept (skip : List Path) (exempt : Prop) (waypoint : Waypoint) : Prop where
  named : waypoint.name = "target" → waypoint.depth = 0 ∧ exempt
  outside : ∀ dir ∈ skip, waypoint.path.startsWith dir = false
  shown : 0 < waypoint.depth → waypoint.name.toList.head? ≠ some '.'

/-- No directory on the way has a path that is too long for the system. -/
def Readable (above : Path) : Spot → Prop
  | [] => True
  | name :: rest => FileSystem.tooLong above = false ∧ Readable (above.join ⟨name⟩) rest

variable {skip : List Path} {exempt : Prop} {above path : Path} {depth : Nat} {name : String}
  {names : Spot}

theorem isKept_iff : isKept skip path name = true ↔
    name ≠ "target" ∧ ∀ dir ∈ skip, path.startsWith dir = false := by
  rw [isKept, resultsName, Bool.and_eq_true, Bool.not_eq_true', List.any_eq_false, and_comm,
    decide_eq_true_eq]
  simp only [Bool.not_eq_true]

theorem isHidden_eq_false : isHidden name = false ↔ name.toList.head? ≠ some '.' := by
  rw [isHidden, Utf8.decodeLossy_encode]
  exact decide_eq_false_iff_not

/-- What the search asks of an entry below its start. -/
theorem kept_below :
    (!isHidden name && isKept skip path name) = true ↔
      Waypoint.Kept skip exempt ⟨depth + 1, name, path⟩ := by
  rw [Bool.and_eq_true, Bool.not_eq_true', isHidden_eq_false, isKept_iff]
  constructor
  · rintro ⟨shown, named, outside⟩
    exact ⟨fun same => absurd same named, outside, fun _ => shown⟩
  · rintro ⟨named, outside, shown⟩
    exact ⟨shown (Nat.succ_pos _), fun same => Nat.succ_ne_zero _ (named same).1, outside⟩

/-! ### Files of trees -/

/-- Names lead from `above` to a file that the search finds. -/
structure Found (skip : List Path) (exempt : Prop) (depth : Nat) (above : Path) (node : Node)
    (names : Spot) : Prop where
  file : node.HasFile names
  readable : Readable above names
  kept : ∀ waypoint ∈ wayBelow depth above names, waypoint.Kept skip exempt

/-- What is found in a directory is found in one of its entries, and this is kept. -/
theorem found_dir {entries : List (String × Node)} {modified : Nat}
    (tidy : (Node.dir entries modified).Tidy) (short : FileSystem.tooLong above = false) :
    Found skip exempt depth above (.dir entries modified) names ↔
      ∃ name node rest, names = name :: rest ∧ (name, node) ∈ entries ∧
        (!isHidden name && isKept skip (above.join ⟨name⟩) name) = true ∧
        Found skip exempt (depth + 1) (above.join ⟨name⟩) node rest := by
  constructor
  · rintro ⟨file, readable, kept⟩
    obtain ⟨name, node, rest, rfl, member, inside⟩ := (Node.hasFile_dir tidy).mp file
    obtain ⟨first, others⟩ := List.forall_mem_cons.mp kept
    exact ⟨name, node, rest, rfl, member, kept_below.mpr first, inside, readable.2, others⟩
  · rintro ⟨name, node, rest, rfl, member, first, inside, readable, others⟩
    exact ⟨(Node.hasFile_dir tidy).mpr ⟨name, node, rest, rfl, member, inside⟩, ⟨short, readable⟩,
      List.forall_mem_cons.mpr ⟨kept_below.mp first, others⟩⟩

/-- The files that are found in the entries of a directory are those that are found in it. -/
theorem exists_found_dir {entries : List (String × Node)} {modified : Nat}
    (tidy : (Node.dir entries modified).Tidy) (short : FileSystem.tooLong above = false)
    (path : Path) :
    (∃ name node rest, (name, node) ∈ entries ∧
        (!isHidden name && isKept skip (above.join ⟨name⟩) name) = true ∧
        Found skip exempt (depth + 1) (above.join ⟨name⟩) node rest ∧
        path = spelled (above.join ⟨name⟩) rest) ↔
      ∃ names, Found skip exempt depth above (.dir entries modified) names ∧
        path = spelled above names := by
  constructor
  · rintro ⟨name, node, rest, member, kept, found, rfl⟩
    exact ⟨name :: rest,
      (found_dir tidy short).mpr ⟨name, node, rest, rfl, member, kept, found⟩, rfl⟩
  · rintro ⟨names, found, rfl⟩
    obtain ⟨name, node, rest, rfl, member, kept, inside⟩ := (found_dir tidy short).mp found
    exact ⟨name, node, rest, member, kept, inside, rfl⟩

mutual

/-- **The files of a tree** are those that the search finds by their names. -/
theorem mem_filesOf (skip : List Path) (exempt : Prop) (depth : Nat) (above : Path) :
    (node : Node) → node.Tidy → (path : Path) →
      (path ∈ filesOf skip above node ↔
        ∃ names, Found skip exempt depth above node names ∧ path = spelled above names)
  | .file content modified, _, path => by
    rw [filesOf, List.mem_singleton]
    constructor
    · rintro rfl
      exact ⟨[], ⟨⟨content, modified, rfl⟩, trivial, fun _ none => nomatch none⟩, rfl⟩
    · rintro ⟨names, found, rfl⟩
      rw [(Node.hasFile_file content modified).mp found.file]
      rfl
  | .link target modified, _, path => by
    rw [filesOf]
    refine iff_of_false List.not_mem_nil ?_
    rintro ⟨names, found, -⟩
    exact Node.not_hasFile_link _ _ found.file
  | .dir entries modified, tidy, path => by
    rw [filesOf]
    split
    · next long =>
      refine iff_of_false List.not_mem_nil ?_
      rintro ⟨names, found, -⟩
      obtain ⟨name, node, rest, rfl, -⟩ := (Node.hasFile_dir tidy).mp found.file
      exact Bool.false_ne_true (found.readable.1.symm.trans long)
    · next short =>
      have short : FileSystem.tooLong above = false := Bool.eq_false_iff.mpr short
      rw [mem_filesAmong skip exempt (depth + 1) above entries fun _ member => tidy.child member]
      exact exists_found_dir tidy short path

/-- The files of entries are those of the entries that are kept. -/
theorem mem_filesAmong (skip : List Path) (exempt : Prop) (depth : Nat) (above : Path) :
    (entries : List (String × Node)) → (∀ entry ∈ entries, entry.2.Tidy) → (path : Path) →
      (path ∈ filesAmong skip above entries ↔ ∃ name node rest, (name, node) ∈ entries ∧
        (!isHidden name && isKept skip (above.join ⟨name⟩) name) = true ∧
        Found skip exempt depth (above.join ⟨name⟩) node rest ∧
        path = spelled (above.join ⟨name⟩) rest)
  | [], _, path => by simp [filesAmong]
  | (first, top) :: others, tidy, path => by
    obtain ⟨here, later⟩ := List.forall_mem_cons.mp tidy
    have among := mem_filesAmong skip exempt depth above others later path
    have inside := mem_filesOf skip exempt depth (above.join ⟨first⟩) top here path
    rw [filesAmong, List.mem_append, among]
    constructor
    · rintro (member | ⟨name, node, rest, member, told⟩)
      · split at member
        · next kept =>
          obtain ⟨rest, found, same⟩ := inside.mp member
          exact ⟨first, top, rest, List.mem_cons_self, kept, found, same⟩
        · cases member
      · exact ⟨name, node, rest, List.mem_cons_of_mem _ member, told⟩
    · rintro ⟨name, node, rest, member, kept, found, same⟩
      rcases List.mem_cons.mp member with first | later
      · obtain ⟨rfl, rfl⟩ := Prod.mk.inj first
        rw [if_pos kept]
        exact .inl (inside.mpr ⟨rest, found, same⟩)
      · exact .inr ⟨name, node, rest, later, kept, found, same⟩

end

/-! ### Paths of files -/

/-- A name that is joined to a path is one more component. -/
theorem components_join_name (spelt : above.text ≠ "") (proper : IsName name) :
    (above.join ⟨name⟩).components = above.components ++ [.name name] := by
  have relative : (Path.mk name).isAbsolute = false := by
    unfold Path.isAbsolute
    refine decide_eq_false fun first => proper.plain ?_
    exact List.mem_of_head? first
  have word : (Path.mk name).words = [name.toList] := by
    rw [Path.words, Path.wordsOf_of_plain proper.plain, proper.told]
    rfl
  rw [Path.components_join spelt relative, word, List.map_singleton, Path.componentOf,
    if_neg proper.level, String.ofList_toList]

/-- A path with components is not empty. -/
theorem text_ne_empty (some : path.components ≠ []) : path.text ≠ "" := by
  intro empty
  obtain ⟨text⟩ := path
  obtain rfl : text = "" := empty
  exact some Path.components_empty

/-- The names on the way are the components of the path after those of the start. -/
theorem components_spelled {start : Path} (spelt : start.text ≠ "")
    (proper : ∀ name ∈ names, IsName name) :
    (spelled start names).components = start.components ++ names.map .name := by
  induction names generalizing start with
  | nil => simp [spelled]
  | cons name rest ih =>
    obtain ⟨first, others⟩ := List.forall_mem_cons.mp proper
    have joined := components_join_name spelt first
    rw [spelled, ih (text_ne_empty (by simp [joined])) others, joined]
    simp

/-- Paths of files below different entries of a directory are different. -/
theorem spelled_ne {other : String} {rest more : Spot} (spelt : above.text ≠ "")
    (proper : ∀ part ∈ name :: rest, IsName part) (next : ∀ part ∈ other :: more, IsName part)
    (differ : name ≠ other) : spelled above (name :: rest) ≠ spelled above (other :: more) := by
  intro same
  have components := congrArg Path.components same
  rw [components_spelled spelt proper, components_spelled spelt next] at components
  have first := (List.cons.inj (List.append_cancel_left components)).1
  exact differ (Component.name.inj first)

mutual

/-- Every file of a tree is found once. -/
theorem nodup_filesOf (skip : List Path) (above : Path) (spelt : above.text ≠ "") :
    (node : Node) → node.Tidy → (filesOf skip above node).Nodup
  | .file .., _ => List.nodup_singleton _
  | .link .., _ => List.nodup_nil
  | .dir entries _, tidy => by
    rw [filesOf]
    split
    · exact List.nodup_nil
    · exact nodup_filesAmong skip above spelt entries tidy.nodup
        fun entry member => ⟨tidy.isName member, tidy.child member⟩

/-- Every file below different entries is found once. -/
theorem nodup_filesAmong (skip : List Path) (above : Path) (spelt : above.text ≠ "") :
    (entries : List (String × Node)) → (entries.map Prod.fst).Nodup →
      (∀ entry ∈ entries, IsName entry.1 ∧ entry.2.Tidy) → (filesAmong skip above entries).Nodup
  | [], _, _ => List.nodup_nil
  | (name, node) :: others, once, tidy => by
    obtain ⟨⟨proper, inside⟩, later⟩ := List.forall_mem_cons.mp tidy
    obtain ⟨fresh, further⟩ := List.nodup_cons.mp once
    have joined : (above.join ⟨name⟩).text ≠ "" :=
      text_ne_empty (by simp [components_join_name spelt proper])
    have among := nodup_filesAmong skip above spelt others further later
    rw [filesAmong]
    split
    · refine (nodup_filesOf skip _ joined node inside).append among ?_
      intro path here there
      obtain ⟨rest, found, rfl⟩ := (mem_filesOf skip False 0 _ node inside path).mp here
      obtain ⟨other, top, more, member, -, beside, same⟩ :=
        (mem_filesAmong skip False 0 above others (fun entry known => (later entry known).2) _).mp
          there
      obtain ⟨known, below⟩ := later _ member
      refine spelled_ne spelt (List.forall_mem_cons.mpr ⟨proper, ?_⟩)
        (List.forall_mem_cons.mpr ⟨known, below.isName_of_hasFile beside.file⟩) ?_ same
      · exact inside.isName_of_hasFile found.file
      · rintro rfl
        exact fresh (List.mem_map.mpr ⟨_, member, rfl⟩)
    · rw [List.nil_append]
      exact among

end

end Sources

end LiveReload
