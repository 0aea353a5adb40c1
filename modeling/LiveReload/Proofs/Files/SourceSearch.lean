/-
**Which sources a search finds.**

A source is told by a start and the names that lead to it from there. It is a file with one of the
extensions, it is reached past entries that are kept, and the search lists the paths of all sources,
in the order of their bytes, as often as they are reached. That is once, unless one start lies in
another. A start that is a link is followed whatever its name is: the search looks at the name, but
a link is no directory that could be left out with what is in it.

* `FileSystem.Reaches`: the file that names lead to from a start;
* `Sources.mem_filesFrom`: the files of a start, one by one;
* `Sources.IsSource`: a source, told by its way (`Sources.mem_find`);
* `Sources.disjoint_filesFrom`: starts that do not lie in each other have no file in common;
* `Sources.finds_sources`: the search finds the sources.
-/
import LiveReload.Proofs.Files.Descents
import LiveReload.Proofs.Files.SourceTrees
import LiveReload.Proofs.Text.ByteOrder

namespace LiveReload

/-! ### Files of a start -/

namespace FileSystem

/-- The path is that of a link, which is not replaced here. -/
def IsLink (files : FileSystem) (path : Path) : Prop :=
  ∃ spot target modified, files.land false path = .ok (.entry spot) ∧
    files.root.at? spot = some (.link target modified)

/-- A search that starts at a path reaches the file that names lead to: the start may be a link, but
not one to the file itself, and every directory on the way can be read. -/
structure Reaches (files : FileSystem) (start : Path) (names : Spot) : Prop where
  file : ∃ spot top, files.find start = .ok (spot, top) ∧ top.HasFile names
  solid : names = [] → ¬ files.IsLink start
  readable : Sources.Readable start names

variable {files : FileSystem} {start path : Path} {spot : Spot} {node top : Node}

/-- What a path leads to is its entry, unless this is a link. -/
theorem land_of_find (found : files.find start = .ok (spot, top)) :
    files.IsLink start ∨ files.land false start = .ok (.entry spot) := by
  obtain ⟨short, walkable, walk⟩ := land_eq_ok.mp (find_eq_ok.mp found).1
  rcases walk.unreplaced with same | ⟨home, target, modified, walk, link⟩
  · exact .inr (land_eq_ok.mpr ⟨short, walkable, same⟩)
  · exact .inl ⟨home, target, modified, land_eq_ok.mpr ⟨short, walkable, walk⟩,
      Node.seen_eq_link.mp link⟩

theorem find_of_land (landed : files.land false start = .ok (.entry spot))
    (there : files.root.at? spot = some node)
    (solid : ∀ target modified, node ≠ .link target modified) :
    files.find start = .ok (spot, node) := by
  obtain ⟨short, walkable, walk⟩ := land_eq_ok.mp landed
  refine find_eq_ok.mpr ⟨land_eq_ok.mpr ⟨short, walkable, walk.replaced ?_⟩, there⟩
  intro target modified link
  rw [Node.seen_eq_link, there, Option.some_inj] at link
  exact solid target modified link

end FileSystem

namespace Sources

variable {files : FileSystem} {skip : List Path} {start path : Path} {spot : Spot} {top : Node}

theorem filesFrom_of_missing (missing : ∀ spot top, files.find start ≠ .ok (spot, top)) :
    filesFrom files skip start = [] := by
  unfold filesFrom
  split
  · next spot landed =>
    cases there : files.root.at? spot with
    | none => rfl
    | some node =>
      cases node with
      | link target modified =>
        dsimp only
        split
        · next found => exact absurd found (missing _ _)
        · rfl
      | _ => exact absurd (FileSystem.find_of_land landed there nofun) (missing _ _)
  · rfl

theorem filesFrom_of_link (link : files.IsLink start) (found : files.find start = .ok (spot, top)) :
    filesFrom files skip start = filesAmong skip start top.entries := by
  obtain ⟨home, target, modified, landed, there⟩ := link
  rw [filesFrom, landed]
  dsimp only
  rw [there]
  dsimp only
  rw [found]

theorem filesFrom_of_solid (solid : ¬ files.IsLink start)
    (found : files.find start = .ok (spot, top)) :
    filesFrom files skip start =
      if isKept skip start (startName start) then filesOf skip start top else [] := by
  have landed := (FileSystem.land_of_find found).resolve_left solid
  have there := (FileSystem.find_eq_ok.mp found).2
  rw [filesFrom, landed]
  dsimp only
  rw [there]
  cases top with
  | link target modified => exact absurd ⟨spot, target, modified, landed, there⟩ solid
  | _ => rfl

/-- What is left out with a path is left out with every name in it. -/
theorem startsWith_join_name {dir : Path} {name : String} (spelt : start.text ≠ "")
    (proper : IsName name) (starts : start.startsWith dir = true) :
    (start.join ⟨name⟩).startsWith dir = true := by
  refine List.isPrefixOf_iff_prefix.mpr ?_
  rw [components_join_name spelt proper]
  exact (List.isPrefixOf_iff_prefix.mp starts).trans (List.prefix_append _ _)

theorem text_ne_empty_of_find (found : files.find start = .ok (spot, top)) : start.text ≠ "" := by
  intro empty
  obtain ⟨-, ⟨filled, -⟩, -⟩ := FileSystem.land_eq_ok.mp (FileSystem.find_eq_ok.mp found).1
  rw [empty] at filled
  cases filled

/-- A start that is a link is left out by its path alone, and then its entries are. -/
theorem reaches_through_link {entries : List (String × Node)} {modified : Nat} {names : Spot}
    (link : files.IsLink start) (found : files.find start = .ok (spot, .dir entries modified))
    (tidy : (Node.dir entries modified).Tidy) :
    Found skip (files.IsLink start) 0 start (.dir entries modified) names ↔
      files.Reaches start names ∧
        ∀ waypoint ∈ way start names, waypoint.Kept skip (files.IsLink start) := by
  have spelt := text_ne_empty_of_find found
  constructor
  · intro inside
    obtain ⟨name, node, rest, rfl, member, -⟩ := (Node.hasFile_dir tidy).mp inside.file
    obtain ⟨first, -⟩ := List.forall_mem_cons.mp inside.kept
    refine ⟨⟨⟨spot, _, found, inside.file⟩, nofun, inside.readable⟩,
      List.forall_mem_cons.mpr ⟨⟨fun _ => ⟨rfl, link⟩, fun dir skipped => ?_, nofun⟩, inside.kept⟩⟩
    refine Bool.eq_false_iff.mpr fun starts => ?_
    have within := startsWith_join_name spelt (tidy.isName member) starts
    exact Bool.false_ne_true ((first.outside dir skipped).symm.trans within)
  · rintro ⟨⟨⟨other, node, again, file⟩, -, readable⟩, kept⟩
    rw [found, Except.ok.injEq, Prod.mk.injEq] at again
    exact ⟨again.2 ▸ file, readable, (List.forall_mem_cons.mp kept).2⟩

/-- A start that is no link is kept as the entries below it are, but for its being hidden. -/
theorem reaches_solid {names : Spot} (solid : ¬ files.IsLink start)
    (found : files.find start = .ok (spot, top)) :
    isKept skip start (startName start) = true ∧ Found skip (files.IsLink start) 0 start top names ↔
      files.Reaches start names ∧
        ∀ waypoint ∈ way start names, waypoint.Kept skip (files.IsLink start) := by
  rw [isKept_iff]
  constructor
  · rintro ⟨⟨named, outside⟩, inside⟩
    exact ⟨⟨⟨spot, top, found, inside.file⟩, fun _ => solid, inside.readable⟩,
      List.forall_mem_cons.mpr ⟨⟨fun same => absurd same named, outside, nofun⟩, inside.kept⟩⟩
  · rintro ⟨⟨⟨other, node, again, file⟩, -, readable⟩, kept⟩
    rw [found, Except.ok.injEq, Prod.mk.injEq] at again
    obtain ⟨root, below⟩ := List.forall_mem_cons.mp kept
    exact ⟨⟨fun same => solid (root.named same).2, root.outside⟩, again.2 ▸ file, readable, below⟩

/-- **The files of a start** are those that it reaches past entries that are kept. -/
theorem mem_filesFrom (tidy : files.root.Tidy) :
    path ∈ filesFrom files skip start ↔ ∃ names, (files.Reaches start names ∧
      ∀ waypoint ∈ way start names, waypoint.Kept skip (files.IsLink start)) ∧
      path = spelled start names := by
  by_cases missing : ∀ spot top, files.find start ≠ .ok (spot, top)
  · rw [filesFrom_of_missing missing]
    refine iff_of_false List.not_mem_nil ?_
    rintro ⟨names, ⟨⟨⟨spot, top, found, -⟩, -, -⟩, -⟩, -⟩
    exact missing spot top found
  obtain ⟨spot, top, found⟩ : ∃ spot top, files.find start = .ok (spot, top) := by
    simpa using missing
  have inside : top.Tidy := tidy.at? (FileSystem.find_eq_ok.mp found).2
  by_cases link : files.IsLink start
  · rw [filesFrom_of_link link found]
    have short := (FileSystem.land_eq_ok.mp (FileSystem.find_eq_ok.mp found).1).1
    cases top with
    | dir entries modified =>
      rw [Node.entries,
        mem_filesAmong skip (files.IsLink start) 1 start _ fun _ known => inside.child known,
        exists_found_dir inside short path]
      simp only [reaches_through_link link found inside]
    | _ =>
      -- A file behind a link is not looked at.
      refine iff_of_false List.not_mem_nil ?_
      rintro ⟨names, ⟨⟨⟨other, node, again, file⟩, solid, -⟩, -⟩, -⟩
      rw [found, Except.ok.injEq, Prod.mk.injEq] at again
      obtain ⟨-, rfl⟩ := again
      simp_all [Node.hasFile_file, Node.not_hasFile_link]
  · rw [filesFrom_of_solid link found]
    simp only [← reaches_solid link found]
    split
    · next kept =>
      rw [mem_filesOf skip (files.IsLink start) 0 start top inside path]
      simp only [kept, true_and]
    · next left_out =>
      refine iff_of_false List.not_mem_nil ?_
      rintro ⟨names, ⟨kept, -⟩, -⟩
      exact left_out kept

/-- A start has every file once. -/
theorem nodup_filesFrom (tidy : files.root.Tidy) (skip : List Path) (start : Path) :
    (filesFrom files skip start).Nodup := by
  by_cases missing : ∀ spot top, files.find start ≠ .ok (spot, top)
  · rw [filesFrom_of_missing missing]
    exact List.nodup_nil
  obtain ⟨spot, top, found⟩ : ∃ spot top, files.find start = .ok (spot, top) := by
    simpa using missing
  have inside : top.Tidy := tidy.at? (FileSystem.find_eq_ok.mp found).2
  have spelt := text_ne_empty_of_find found
  by_cases link : files.IsLink start
  · rw [filesFrom_of_link link found]
    cases top with
    | dir entries modified =>
      exact nodup_filesAmong skip start spelt entries inside.nodup
        fun entry member => ⟨inside.isName member, inside.child member⟩
    | _ => exact List.nodup_nil
  · rw [filesFrom_of_solid link found]
    split
    · exact nodup_filesOf skip start spelt top inside
    · exact List.nodup_nil

/-! ### Sources -/

/-- The names lead from a start to a source: a file with one of the extensions, past entries that
are kept. -/
structure IsSource (files : FileSystem) (skip : List Path) (extensions : List String)
    (exempt : Prop) (start : Path) (names : Spot) : Prop where
  reached : files.Reaches start names
  kind : ∃ extension ∈ extensions, (spelled start names).extension = some extension
  kept : ∀ waypoint ∈ way start names, waypoint.Kept skip exempt

theorem hasExtension_iff {extensions : List String} :
    hasExtension extensions (.ofPath path) = true ↔
      ∃ extension ∈ extensions, path.extension = some extension := by
  rw [hasExtension, RawPath.extensionText?_ofPath]
  cases path.extension <;> simp

/-- The paths that the search finds before it sorts them. -/
theorem find_perm (files : FileSystem) (starts skip : List Path) (extensions : List String) :
    (find files starts skip extensions).Perm
      (((starts.flatMap (filesFrom files skip)).filter
        fun path => hasExtension extensions (.ofPath path)).map Path.text) := by
  have shown : (fun path : RawPath => path.text.text) ∘ RawPath.ofPath = Path.text :=
    funext fun path => congrArg Path.text (RawPath.text_ofPath path)
  refine (List.mergeSort_perm _ _).trans ?_
  rw [List.filter_map, List.map_map, shown]
  rfl

/-- **The search finds the sources**, and nothing else. -/
theorem mem_find {starts : List Path} {extensions : List String} {text : String}
    (tidy : files.root.Tidy) :
    text ∈ find files starts skip extensions ↔ ∃ start ∈ starts, ∃ names,
      IsSource files skip extensions (files.IsLink start) start names ∧
        text = (spelled start names).text := by
  simp only [(find_perm _ _ _ _).mem_iff, List.mem_map, List.mem_filter, List.mem_flatMap,
    mem_filesFrom tidy, hasExtension_iff]
  constructor
  · rintro ⟨_, ⟨⟨start, member, names, ⟨reached, kept⟩, rfl⟩, kind⟩, rfl⟩
    exact ⟨start, member, names, ⟨reached, kind, kept⟩, rfl⟩
  · rintro ⟨start, member, names, ⟨reached, kind, kept⟩, rfl⟩
    exact ⟨_, ⟨⟨start, member, names, ⟨reached, kept⟩, rfl⟩, kind⟩, rfl⟩

theorem find_sorted (files : FileSystem) (starts skip : List Path) (extensions : List String) :
    (find files starts skip extensions).Pairwise fun text other =>
      Utf8.encode text ≤ Utf8.encode other := by
  show (List.mergeSort _ fun text other => decide (text ≤ other)).Pairwise _
  refine (List.pairwise_mergeSort (fun first second third before after => ?_)
    (fun first second => ?_) _).imp fun order => Utf8.encode_le (of_decide_eq_true order)
  · exact decide_eq_true (le_trans (of_decide_eq_true before) (of_decide_eq_true after))
  · simpa using le_total first second

/-! ### Starts that lie in each other -/

end Sources

/-- Neither path begins with the other one. -/
def Path.Apart (path other : Path) : Prop :=
  path.startsWith other = false ∧ other.startsWith path = false

/-- Neither path leads to an entry at or below that of the other one. -/
def FileSystem.Apart (files : FileSystem) (path other : Path) : Prop :=
  ∀ spot top goal node, files.find path = .ok (spot, top) → files.find other = .ok (goal, node) →
    ¬ spot <+: goal ∧ ¬ goal <+: spot

/-- No link is on the way to a file. -/
theorem Node.HasFile.solid {top : Node} {names part : Spot} (file : top.HasFile names)
    (begins : part <+: names) (target : Path) (modified : Nat) :
    top.at? part ≠ some (.link target modified) := by
  intro link
  obtain ⟨rest, rfl⟩ := begins
  obtain ⟨content, stamp, found⟩ := file
  rw [at?_append, link, Option.bind_some] at found
  exact not_hasFile_link target modified ⟨content, stamp, found⟩

namespace Sources

variable {files : FileSystem} {skip starts : List Path} {extensions : List String}
  {start other : Path} {names more : Spot}

/-- A start that begins with the other one leads below it, if they reach a file in common. -/
theorem not_apart_of_prefix (tidy : files.root.Tidy) (reached : files.Reaches start names)
    (again : files.Reaches other more) (same : spelled start names = spelled other more)
    (begins : start.components <+: other.components) :
    ¬ start.Apart other ∧ ¬ files.Apart start other := by
  obtain ⟨spot, top, found, file⟩ := reached.file
  obtain ⟨goal, node, further, inside⟩ := again.file
  constructor
  · rintro ⟨-, outside⟩
    exact Bool.false_ne_true (outside.symm.trans (List.isPrefixOf_iff_prefix.mpr begins))
  · intro apart
    obtain ⟨rest, whole⟩ := begins
    have tidyTop : top.Tidy := tidy.at? (FileSystem.find_eq_ok.mp found).2
    have tidyNode : node.Tidy := tidy.at? (FileSystem.find_eq_ok.mp further).2
    -- The names that the second start adds are the first ones on the way from the first start.
    have components := congrArg Path.components same
    rw [components_spelled (text_ne_empty_of_find found) (tidyTop.isName_of_hasFile file),
      components_spelled (text_ne_empty_of_find further) (tidyNode.isName_of_hasFile inside),
      ← whole, List.append_assoc] at components
    obtain ⟨front, back, rfl, rfl, -⟩ :=
      List.map_eq_append_iff.mp (List.append_cancel_left components)
    have leads : goal = spot ++ front := by
      refine FileSystem.find_below found further whole.symm
        fun part name before target stamp link => ?_
      rw [Node.seen_eq_link, List.append_assoc, Node.at?_append,
        (FileSystem.find_eq_ok.mp found).2, Option.bind_some] at link
      exact file.solid (before.trans (List.prefix_append _ _)) target stamp link
    refine (apart spot top goal node found further).1 ?_
    rw [leads]
    exact List.prefix_append _ _

/-- Starts that do not lie in each other have no file in common. -/
theorem disjoint_filesFrom (tidy : files.root.Tidy)
    (apart : start.Apart other ∨ files.Apart start other) :
    (filesFrom files skip start).Disjoint (filesFrom files skip other) := by
  intro path here there
  obtain ⟨names, ⟨reached, -⟩, rfl⟩ := (mem_filesFrom tidy).mp here
  obtain ⟨more, ⟨again, -⟩, same⟩ := (mem_filesFrom tidy).mp there
  have spell {path : Path} {names : Spot} (reached : files.Reaches path names) :
      path.components <+: (spelled path names).components := by
    obtain ⟨spot, top, found, file⟩ := reached.file
    have known : top.Tidy := tidy.at? (FileSystem.find_eq_ok.mp found).2
    rw [components_spelled (text_ne_empty_of_find found) (known.isName_of_hasFile file)]
    exact List.prefix_append _ _
  have first := spell reached
  rw [same] at first
  rcases List.prefix_or_prefix_of_prefix first (spell again) with before | after
  · obtain ⟨spelling, place⟩ := not_apart_of_prefix tidy reached again same before
    exact apart.elim spelling place
  · obtain ⟨spelling, place⟩ := not_apart_of_prefix tidy again reached same.symm after
    refine apart.elim (fun apart => spelling apart.symm) fun apart => place ?_
    exact fun goal node spot top further found => (apart spot top goal node found further).symm

theorem nodup_find (tidy : files.root.Tidy)
    (apart : starts.Pairwise fun start other => start.Apart other ∨ files.Apart start other) :
    (find files starts skip extensions).Nodup := by
  rw [(find_perm _ _ _ _).nodup_iff]
  have once : (starts.flatMap (filesFrom files skip)).Nodup :=
    List.nodup_flatMap.mpr ⟨fun start _ => nodup_filesFrom tidy skip start,
      apart.imp fun apart => disjoint_filesFrom tidy apart⟩
  refine (once.filter _).map fun path other same => ?_
  cases path
  cases other
  exact congrArg Path.mk same

/-- **The search finds the sources.** In a tree whose directories have no name twice, whatever the
starts, the paths to be skipped and the extensions are: the texts that are listed are in the order
of their bytes; a text is listed exactly if it is the path of a source, told by a start and names,
where a start that is a link is exempt from being left out by its name; and if no start lies in
another, by its spelling or by where it leads, no text is listed twice. -/
theorem finds_sources (tidy : files.root.Tidy) (starts skip : List Path)
    (extensions : List String) :
    let found := find files starts skip extensions
    (found.Pairwise fun text other => Utf8.encode text ≤ Utf8.encode other) ∧
      (∀ text, text ∈ found ↔ ∃ start ∈ starts, ∃ names,
        IsSource files skip extensions (files.IsLink start) start names ∧
          text = (spelled start names).text) ∧
      (starts.Pairwise (fun start other => start.Apart other ∨ files.Apart start other) →
        found.Nodup) :=
  ⟨find_sorted files starts skip extensions, fun _ => mem_find tidy, nodup_find tidy⟩

end Sources

/-! ### A link that is named as results are -/

/-- A tree in which a link leads to the directory of a source. -/
def FileSystem.studio : FileSystem :=
  ⟨.dir [("w", .dir [("src", .dir [("main.rs", .file (.ofText "") 0)] 0),
    ("target", .link ⟨"src"⟩ 0)] 0)] 0, ["w"], 0, []⟩

namespace FileSystem

theorem tidy_studio : studio.root.Tidy := by
  refine Node.tidy_dir (by decide) fun outer here => ?_
  obtain rfl := List.mem_singleton.mp here
  refine ⟨by decide, Node.tidy_dir (by decide) fun inner there => ?_⟩
  rcases List.mem_pair.mp there with rfl | rfl
  · refine ⟨by decide, Node.tidy_dir (by decide) fun file inside => ?_⟩
    obtain rfl := List.mem_singleton.mp inside
    exact ⟨by decide, Node.tidy_of_bare rfl⟩
  · exact ⟨by decide, Node.tidy_of_bare rfl⟩

/-- Both paths lead to the directory of the source. -/
theorem find_studio {start : Path} (start_eq : start = ⟨"src/"⟩ ∨ start = ⟨"target"⟩) :
    studio.find start = .ok (["w", "src"], .dir [("main.rs", .file (.ofText "") 0)] 0) := by
  refine find_eq_ok.mpr ⟨land_eq_ok.mpr ?_, rfl⟩
  rcases start_eq with rfl | rfl
  · have steps : Path.steps ⟨"src/"⟩ = [.name "src", .stay] := by decide
    rw [steps]
    exact ⟨by decide, ⟨by decide, by decide⟩, .enter rfl (by decide) (.stay rfl .done)⟩
  · have steps : Path.steps ⟨"target"⟩ = [.name "target"] := by decide
    have further : Path.steps ⟨"src"⟩ ++ [] = [.name "src"] := by decide
    rw [steps]
    refine ⟨by decide, ⟨by decide, by decide⟩, .jump (by decide) rfl (fun _ => rfl) ?_⟩
    rw [further]
    exact .enter rfl (by decide) .done

theorem isLink_studio : studio.IsLink ⟨"target"⟩ := by
  have steps : Path.steps ⟨"target"⟩ = [.name "target"] := by decide
  refine ⟨["w", "target"], ⟨"src"⟩, 0, land_eq_ok.mpr ⟨by decide, ⟨by decide, by decide⟩, ?_⟩, rfl⟩
  rw [steps]
  exact .stop (by decide) rfl rfl

theorem reaches_studio {start : Path} (start_eq : start = ⟨"src/"⟩ ∨ start = ⟨"target"⟩) :
    studio.Reaches start ["main.rs"] where
  file := ⟨_, _, find_studio start_eq, _, _, rfl⟩
  solid := nofun
  readable := by rcases start_eq with rfl | rfl <;> exact ⟨by decide, trivial⟩

end FileSystem

namespace Sources

theorem isSource_studio_linked :
    IsSource .studio [] ["rs"] (FileSystem.studio.IsLink ⟨"target"⟩) ⟨"target"⟩ ["main.rs"] where
  reached := FileSystem.reaches_studio (.inr rfl)
  kind := ⟨"rs", List.mem_cons_self, by decide⟩
  kept := by
    refine List.forall_mem_cons.mpr ⟨⟨fun _ => ⟨rfl, FileSystem.isLink_studio⟩, nofun, nofun⟩, ?_⟩
    exact List.forall_mem_singleton.mpr
      ⟨fun same => absurd same (by decide), nofun, fun _ => by decide⟩

/-- Two starts that lead to one directory have a source each. -/
theorem finds_sources_studio :
    let starts : List Path := [⟨"src/"⟩, ⟨"target"⟩]
    let found := find .studio starts [] ["rs"]
    FileSystem.studio.root.Tidy ∧
      starts.Pairwise (fun start other => start.Apart other ∨ FileSystem.studio.Apart start other) ∧
      "src/main.rs" ∈ found ∧ "target/main.rs" ∈ found ∧ found.Nodup := by
  intro starts found
  have apart : starts.Pairwise fun start other =>
      start.Apart other ∨ FileSystem.studio.Apart start other :=
    List.pairwise_pair.mpr (.inl ⟨by decide, by decide⟩)
  have plain :
      IsSource .studio [] ["rs"] (FileSystem.studio.IsLink ⟨"src/"⟩) ⟨"src/"⟩ ["main.rs"] :=
    { reached := FileSystem.reaches_studio (.inl rfl)
      kind := ⟨"rs", List.mem_cons_self, by decide⟩
      kept := List.forall_mem_cons.mpr ⟨⟨fun same => absurd same (by decide), nofun, nofun⟩,
        List.forall_mem_singleton.mpr
          ⟨fun same => absurd same (by decide), nofun, fun _ => by decide⟩⟩ }
  obtain ⟨-, listed, once⟩ := finds_sources FileSystem.tidy_studio starts [] ["rs"]
  refine ⟨FileSystem.tidy_studio, apart, (listed _).mpr ?_, (listed _).mpr ?_, once apart⟩
  · exact ⟨⟨"src/"⟩, List.mem_cons_self, ["main.rs"], plain, by decide⟩
  · exact ⟨⟨"target"⟩, List.mem_cons_of_mem _ List.mem_cons_self, ["main.rs"],
      isSource_studio_linked, by decide⟩

/-- A source is found behind a link that is named `target`, where a directory of that name is left
out. -/
theorem finds_behind_link :
    FileSystem.studio.root.Tidy ∧ "target/main.rs" ∈ find .studio [⟨"target"⟩] [] ["rs"] ∧
      ¬ ∃ start ∈ [(⟨"target"⟩ : Path)], ∃ names, IsSource .studio [] ["rs"] False start names ∧
        "target/main.rs" = (spelled start names).text := by
  refine ⟨FileSystem.tidy_studio, (mem_find FileSystem.tidy_studio).mpr ?_, ?_⟩
  · exact ⟨⟨"target"⟩, List.mem_cons_self, ["main.rs"], isSource_studio_linked, by decide⟩
  · rintro ⟨start, only, names, source, -⟩
    obtain rfl := List.mem_singleton.mp only
    -- The start itself is on the way, and it has the name.
    have first : (⟨0, startName ⟨"target"⟩, ⟨"target"⟩⟩ : Waypoint).Kept [] False :=
      source.kept _ List.mem_cons_self
    exact (first.named (by decide)).2

end Sources

end LiveReload
