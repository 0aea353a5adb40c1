/-
**Where a path leads can be read off its spelling.**

In a tree without links a walk goes where the names of the path say, a `..` back to where it came
from. So two walks of one path in two such trees end at the same spot, and the spot of a path
without `..` is told by its words alone.

* `Path.words`: the pieces of a path that say something, with `words_join` and
  `components_of_absolute`;
* `Spot.words_path`: the words of the path of a spot;
* `Step.reach`: where steps lead if there is no link (`Node.Leads.reached`);
* `FileSystem.Denotes`: the directory that a path denotes;
* `FileSystem.Denotes.components`: the components of its one path, if there is no `..`.
-/
import LiveReload.Proofs.Build.FreshNames
import LiveReload.Proofs.Files.Marks
import LiveReload.Proofs.Files.Walks
import Mathlib.Data.List.Induction

namespace LiveReload

/-! ### The words of a path -/

namespace Path

/-- Texts with a separator between them have the pieces of both. -/
theorem pieces_separated (text more : List Char) :
    pieces (text ++ '/' :: more) = pieces text ++ pieces more := by
  rw [pieces_eq_splitOn, List.splitOn_append_cons_self, pieces_eq_splitOn, pieces_eq_splitOn]

/-- No piece holds a separator. -/
theorem notMem_of_mem_pieces {text piece : List Char} (member : piece ∈ pieces text) :
    '/' ∉ piece := by
  induction text generalizing piece with
  | nil =>
    rw [List.mem_singleton.mp member]
    exact List.not_mem_nil
  | cons c rest ih =>
    rw [pieces] at member
    by_cases separator : c = '/'
    · rw [if_pos separator] at member
      rcases List.mem_cons.mp member with rfl | later
      · exact List.not_mem_nil
      · exact ih later
    · rw [if_neg separator] at member
      cases shape : pieces rest with
      | nil => exact absurd shape (pieces_ne_nil rest)
      | cons first others =>
        rw [shape] at member ih
        rcases List.mem_cons.mp member with rfl | later
        · rw [List.mem_cons, not_or]
          exact ⟨Ne.symm separator, ih List.mem_cons_self⟩
        · exact ih (List.mem_cons_of_mem _ later)

/-- The pieces of a text that say something. -/
def wordsOf (text : List Char) : List (List Char) :=
  (pieces text).filter fun piece => !isIdle piece

/-- The pieces of a path that say something. -/
def words (path : Path) : List (List Char) := wordsOf path.text.toList

theorem wordsOf_separated (text more : List Char) :
    wordsOf (text ++ '/' :: more) = wordsOf text ++ wordsOf more := by
  rw [wordsOf, pieces_separated, List.filter_append]
  rfl

/-- A text without separators is a word, unless it says nothing. -/
theorem wordsOf_of_plain {text : List Char} (plain : '/' ∉ text) :
    wordsOf text = if isIdle text then [] else [text] := by
  rw [wordsOf, pieces_of_plain plain, List.filter_singleton]
  cases isIdle text <;> rfl

/-- A word is its own only word. -/
theorem wordsOf_word {text word : List Char} (member : word ∈ wordsOf text) :
    wordsOf word = [word] := by
  obtain ⟨piece, told⟩ := List.mem_filter.mp member
  rw [wordsOf_of_plain (notMem_of_mem_pieces piece), if_neg]
  simpa using told

/-- A path from the root is the root and its words. -/
theorem components_of_absolute {path : Path} (absolute : path.isAbsolute = true) :
    path.components = .root :: path.words.map componentOf := by
  obtain ⟨rest, shape⟩ : ∃ rest, path.text.toList = '/' :: rest := by
    unfold isAbsolute at absolute
    cases text : path.text.toList with
    | nil => rw [text] at absolute; cases absolute
    | cons c rest =>
      rw [text] at absolute
      exact ⟨rest, congrArg (· :: rest) (Option.some.inj (of_decide_eq_true absolute))⟩
  obtain ⟨piece, others, more⟩ := List.exists_cons_of_ne_nil (pieces_ne_nil rest)
  have all : pieces path.text.toList = [] :: piece :: others := by
    rw [shape, ← more]
    rfl
  unfold components words wordsOf
  simp only [all]
  rfl

theorem words_eq (path : Path) : path.words = Marks.text.words path.text.toList := by
  rw [words, wordsOf, pieces_eq_splitOn]
  exact List.filter_congr fun piece _ => by rw [isIdle_eq]

/-- A relative path adds its words to those of its base. -/
theorem words_join (base : Path) {path : Path} (relative : path.isAbsolute = false) :
    (base.join path).words = base.words ++ path.words := by
  rw [words_eq, join_eq, Marks.words_join _ _ (head?_of_relative relative), words_eq, words_eq]

theorem isAbsolute_join {base : Path} (absolute : base.isAbsolute = true) (path : Path) :
    (base.join path).isAbsolute = true := by
  have starts (more : List Char) : (base.text.toList ++ more).head? = some '/' := by
    unfold isAbsolute at absolute
    rw [List.head?_append, of_decide_eq_true absolute]
    rfl
  unfold join
  split
  · assumption
  · split
    · exact decide_eq_true (by rw [String.toList_append, starts])
    · exact decide_eq_true (by
        rw [String.toList_append, String.toList_append, List.append_assoc, starts])

/-- A path goes up exactly if one of its words is two dots. -/
theorem up_mem_components {path : Path} :
    .up ∈ path.components ↔ ['.', '.'] ∈ path.words := by
  have ahead : Component.up ∉ leading (pieces path.text.toList) := by
    unfold leading
    split <;> simp
  have spelled (word : List Char) : componentOf word = .up ↔ word = ['.', '.'] := by
    unfold componentOf
    split <;> simp_all
  unfold components words wordsOf
  simp [ahead, spelled]

end Path

/-! ### The path of a spot -/

namespace Spot

theorem isAbsolute_path (spot : Spot) : (path spot).isAbsolute = true := by
  simp [path, Path.isAbsolute]

/-- The words of the names, one name after the other. -/
theorem words_path (spot : Spot) :
    (path spot).words = spot.flatMap fun name => Path.wordsOf name.toList := by
  have names : Path.wordsOf (String.intercalate "/" spot).toList =
      spot.flatMap fun name => Path.wordsOf name.toList := by
    induction spot with
    | nil => rfl
    | cons name rest ih =>
      cases rest with
      | nil => simp
      | cons next others =>
        rw [String.intercalate_cons_cons, String.toList_append, String.toList_append,
          List.append_assoc, List.flatMap_cons, ← ih]
        exact Path.wordsOf_separated _ _
  have root : (path spot).words =
      Path.wordsOf [] ++ Path.wordsOf (String.intercalate "/" spot).toList := by
    rw [← Path.wordsOf_separated, Path.words, path, String.toList_append]
    rfl
  rw [root, names]
  rfl

theorem components_path (spot : Spot) :
    (path spot).components =
      .root :: (spot.flatMap fun name => Path.wordsOf name.toList).map Path.componentOf := by
  rw [Path.components_of_absolute spot.isAbsolute_path, words_path]

/-- What lies below a spot has a path below that of the spot. -/
theorem startsWith_path_append (spot rest : Spot) {base : Path}
    (same : base.components = (path spot).components) :
    (path (spot ++ rest)).startsWith base = true := by
  unfold Path.startsWith
  rw [same, components_path, components_path, List.flatMap_append, List.map_append]
  exact List.isPrefixOf_iff_prefix.mpr ⟨_, rfl⟩

/-- Names of entries: none holds a separator or is two dots. -/
def Proper (spot : Spot) : Prop := ∀ name ∈ spot, '/' ∉ name.toList ∧ name ≠ ".."

/-- The path of a spot never goes up. -/
theorem Proper.up_notMem {spot : Spot} (proper : spot.Proper) :
    .up ∉ (path spot).components := by
  rw [Path.up_mem_components, words_path]
  intro member
  obtain ⟨name, known, dots⟩ := List.mem_flatMap.mp member
  obtain ⟨plain, other⟩ := proper name known
  rw [Path.wordsOf_of_plain plain] at dots
  split at dots
  · cases dots
  · exact other (String.toList_inj.mp (List.mem_singleton.mp dots).symm)

end Spot

/-! ### Where steps lead without links -/

/-- Where steps lead from `here` if there is no link on the way. -/
def Step.reach (here : Spot) : List Step → Spot
  | [] => here
  | .stay :: rest => reach here rest
  | .up :: rest => reach here.dropLast rest
  | .name text :: rest => reach (here ++ [text]) rest

theorem Step.reach_append (here : Spot) (steps more : List Step) :
    reach here (steps ++ more) = reach (reach here steps) more := by
  induction steps generalizing here with
  | nil => rfl
  | cons step rest ih => cases step <;> exact ih _

/-- Where a component leads from `here` if there is no link. -/
def Component.go (here : Spot) : Component → Spot
  | .root => []
  | .here => here
  | .up => here.dropLast
  | .name text => here ++ [text]

/-- Pieces lead where the components that they spell lead. -/
theorem Step.reach_pieces_eq (here : Spot) (pieces : List (List Char)) :
    reach here (pieces.filterMap ofPiece?) =
      ((pieces.filter fun piece => !Path.isIdle piece).map Path.componentOf).foldl Component.go
        here := by
  induction pieces generalizing here with
  | nil => rfl
  | cons piece rest ih =>
    by_cases idle : Path.isIdle piece = true
    · rw [List.filter_cons_of_neg (by simpa using idle), ← ih]
      rcases Bool.or_eq_true_iff.mp idle with empty | dot
      · rw [List.filterMap_cons_none (by rw [ofPiece?, if_pos empty])]
      · rw [of_decide_eq_true dot]
        rfl
    · rw [List.filter_cons_of_pos (by simpa using idle), List.map_cons, List.foldl_cons, ← ih]
      rw [Path.isIdle, Bool.or_eq_true, not_or, decide_eq_true_eq] at idle
      by_cases up : piece = ['.', '.']
      · rw [up]
        rfl
      · rw [List.filterMap_cons_some (by rw [ofPiece?, if_neg idle.1, if_neg idle.2, if_neg up]),
          Path.componentOf, if_neg up]
        rfl

/-- The pieces of a path that does not go up lead to their words. -/
theorem Step.reach_pieces (here : Spot) {pieces : List (List Char)}
    (level : ['.', '.'] ∉ pieces) :
    reach here (pieces.filterMap ofPiece?) =
      here ++ (pieces.filter fun piece => !Path.isIdle piece).map String.ofList := by
  have down (words : List (List Char)) (level : ['.', '.'] ∉ words) :
      (words.map Path.componentOf).foldl Component.go here = here ++ words.map String.ofList := by
    induction words using List.reverseRecOn with
    | nil => simp
    | append_singleton words word ih =>
      rw [List.mem_append, not_or, List.mem_singleton] at level
      rw [List.map_append, List.foldl_append, ih level.1, List.map_append, ← List.append_assoc]
      simp [Path.componentOf, Ne.symm level.2, Component.go]
  rw [reach_pieces_eq]
  exact down _ fun member => level (List.mem_of_mem_filter member)

/-- A path that does not go up leads to its words. -/
theorem Path.reach_steps {path : Path} (level : .up ∉ path.components) (here : Spot) :
    Step.reach here path.steps = here ++ path.words.map String.ofList := by
  rw [Path.up_mem_components] at level
  have flat : ['.', '.'] ∉ pieces path.text.toList := fun member =>
    level (List.mem_filter.mpr ⟨member, rfl⟩)
  rw [steps, Step.reach_append, Step.reach_pieces here flat]
  split <;> rfl

/-- The words of a path, taken as names, are the words of these names. -/
theorem Path.flatMap_words (path : Path) :
    ((path.words.map String.ofList).flatMap fun name => wordsOf name.toList) = path.words := by
  rw [List.flatMap_map]
  refine (List.flatMap_congr fun word member => ?_).trans (List.flatMap_singleton' _)
  rw [String.toList_ofList]
  exact wordsOf_word member

namespace Node

/-- No entry of the tree is a link. -/
def Linkless (root : Node) : Prop :=
  ∀ spot target modified, root.seen spot ≠ some (.link target modified)

theorem linkless_dir {entries : List (String × Node)} {modified : Nat}
    (children : ∀ entry ∈ entries, entry.2.Linkless) : (dir entries modified).Linkless := by
  intro spot target stamp link
  cases spot with
  | nil => cases link
  | cons name rest =>
    rw [seen_dir_cons, Option.bind_eq_some_iff] at link
    obtain ⟨child, found, inside⟩ := link
    obtain ⟨before, after, rfl, _⟩ := List.lookup_eq_some_iff.mp found
    exact children (name, child) (by simp) rest target stamp inside

theorem linkless_file (content : Content) (modified : Nat) :
    (file content modified).Linkless := by
  intro spot target stamp link
  cases spot <;> simp [seen, at?, outline, child?, entries] at link

/-- A walk goes on into a directory. -/
theorem Leads.enter {root : Node} {through : Bool} {links : Nat} {here : Spot} {name : String}
    {rest : List Step} {landing : Landing} (found : root.seen (here ++ [name]) = some .folder)
    (fits : name.utf8ByteSize ≤ Landing.nameLimit)
    (walk : Leads root through links (here ++ [name]) rest landing) :
    Leads root through links here (.name name :: rest) landing :=
  .into fits found nofun walk

/-- A walk in a tree without links ends where its steps say. -/
theorem Leads.reached {root : Node} {through : Bool} {links : Nat} {here goal : Spot}
    {steps : List Step} (linkless : root.Linkless)
    (walk : Leads root through links here steps (.entry goal)) :
    goal = Step.reach here steps := by
  generalize target : Landing.entry goal = landing at walk
  induction walk with
  | done =>
    cases target
    rfl
  | stay _ _ ih | up _ _ ih | into _ _ _ _ ih => exact ih target
  | free => cases target
  | stop _ found | jump _ found => exact absurd found (linkless _ _ _)

end Node

namespace FileSystem

/-- The directory that a path denotes: the one that it leads to; the empty path adds nothing to the
current directory. -/
inductive Denotes (files : FileSystem) (path : Path) : Spot → Prop
  | here (empty : path.text = "") : Denotes files path files.current
  | there {spot : Spot} (walk : files.walk true path = .ok (.entry spot))
      (dir : files.root.seen spot = some .folder) : Denotes files path spot

variable {files : FileSystem} {path : Path} {spot : Spot}

/-- In a tree without links a path denotes the directory that its steps reach. -/
theorem Denotes.reached (linkless : files.root.Linkless) (denotes : files.Denotes path spot) :
    spot = Step.reach (files.start path) path.steps := by
  cases denotes with
  | here empty =>
    obtain ⟨text⟩ := path
    obtain rfl : text = "" := empty
    rfl
  | there walk dir => exact (walk_eq_ok.mp walk).2.reached linkless

/-- The one path of an entry is that of the spot that its steps reach. -/
theorem canonical_reached {found : Path} (linkless : files.root.Linkless)
    (canonical : files.canonical path = .ok found) :
    found = Spot.path (Step.reach (files.start path) path.steps) := by
  unfold FileSystem.canonical at canonical
  cases walked : files.walk true path with
  | error fault =>
    rw [walked] at canonical
    cases canonical
  | ok landing =>
    rw [walked] at canonical
    cases landing with
    | vacant parent name => cases canonical
    | entry spot =>
      rw [← (walk_eq_ok.mp walked).2.reached linkless]
      simp only [bind, Except.bind, entryOf] at canonical
      cases there : files.root.at? spot with
      | none =>
        rw [there] at canonical
        cases canonical
      | some node =>
        rw [there] at canonical
        exact (Except.ok.inj canonical).symm

/-- Joined to the current directory, a path that does not go up spells the directory it denotes. -/
theorem Denotes.components (linkless : files.root.Linkless) (denotes : files.Denotes path spot)
    (level : .up ∉ path.components) :
    (files.currentPath.join path).components = (Spot.path spot).components := by
  have end_of_walk := denotes.reached linkless
  rw [Path.reach_steps level] at end_of_walk
  rw [end_of_walk, Spot.components_path, List.flatMap_append, Path.flatMap_words, start]
  cases absolute : path.isAbsolute with
  | true =>
    rw [if_pos rfl, Path.join, if_pos absolute, Path.components_of_absolute absolute]
    rfl
  | false =>
    have rooted : files.currentPath.isAbsolute = true := files.current.isAbsolute_path
    rw [if_neg Bool.false_ne_true,
      Path.components_of_absolute (Path.isAbsolute_join rooted path),
      Path.words_join _ absolute, currentPath, Spot.words_path]

end FileSystem

end LiveReload
