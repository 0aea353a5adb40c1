/-
**The spot that a path names.**

In a tree without links every path names one spot, whatever is there, and its components tell
which: a name goes down, `..` goes up and the root begins anew. So a path that starts with the
components of another one goes on from the spot of that one, and may leave it again.

* `FileSystem.place`: the spot that a path names, at which every walk ends (`place_of_walk`);
* `Path.components_parent`: the path above another one is all of it but the last component;
* `Component.staysInside`: components that do not lead out of the directory they start in.
-/
import LiveReload.Proofs.Files.Operations
import LiveReload.Proofs.Files.Spelled
import Mathlib.Data.List.TakeWhile

namespace LiveReload

/-- The components do not lead out of the directory that is `depth` directories above the one that
they start in. -/
def Component.staysInside : Nat → List Component → Bool
  | _, [] => true
  | _, .root :: _ => false
  | depth, .here :: rest => staysInside depth rest
  | 0, .up :: _ => false
  | depth + 1, .up :: rest => staysInside depth rest
  | depth, .name _ :: rest => staysInside (depth + 1) rest

/-- Components that do not lead out of a directory lead to what is at or below it. -/
theorem Component.prefix_of_staysInside (dir names : Spot) {rest : List Component}
    (inside : staysInside names.length rest = true) : dir <+: rest.foldl go (dir ++ names) := by
  induction rest generalizing names with
  | nil => exact List.prefix_append _ _
  | cons component rest ih =>
    cases component with
    | root => cases names <;> cases inside
    | here => exact ih names (by cases names <;> exact inside)
    | up =>
      rcases List.eq_nil_or_concat' names with rfl | ⟨names, name, rfl⟩
      · cases inside
      · rw [List.length_append, List.length_singleton] at inside
        rw [List.foldl_cons, go, ← List.append_assoc, List.dropLast_concat]
        exact ih names inside
    | name text =>
      rw [List.foldl_cons, go, List.append_assoc]
      refine ih (names ++ [text]) ?_
      rw [List.length_append, List.length_singleton]
      cases names <;> exact inside

/-! ### The components above the last -/

namespace Path

/-- Pieces without separators are read back from the text that they make. -/
theorem pieces_unpieces {all : List (List Char)} (some : all ≠ [])
    (plain : ∀ piece ∈ all, '/' ∉ piece) : pieces (unpieces all) = all := by
  induction all with
  | nil => exact absurd rfl some
  | cons piece others ih =>
    have first := pieces_of_plain (plain piece List.mem_cons_self)
    cases others with
    | nil => exact first
    | cons next more =>
      have rest := ih (List.cons_ne_nil _ _) fun piece member =>
        plain piece (List.mem_cons_of_mem _ member)
      rw [unpieces, pieces_separated, first, rest]
      · rfl
      · exact List.cons_ne_nil _ _

/-- Pieces at the end that say nothing are no words. -/
theorem filter_heldBack (others : List (List Char)) :
    (heldBack others).reverse.filter (fun piece => !isIdle piece) =
      others.filter fun piece => !isIdle piece := by
  have idle : (others.reverse.takeWhile isIdle).filter (fun piece => !isIdle piece) = [] := by
    refine List.filter_eq_nil_iff.mpr fun piece member => ?_
    simp [List.mem_takeWhile_imp member]
  have parts := congrArg (List.filter fun piece => !isIdle piece)
    (List.takeWhile_append_dropWhile (p := isIdle) (l := others.reverse))
  rw [List.filter_append, idle, List.nil_append, List.filter_reverse] at parts
  rw [heldBack, List.filter_reverse, parts, List.reverse_reverse]

/-- What a path says first is the same whatever comes behind. -/
theorem leading_cons (first : List Char) {others more : List (List Char)} (some : others ≠ [])
    (further : more ≠ []) : leading (first :: others) = leading (first :: more) := by
  obtain ⟨_, _, rfl⟩ := List.exists_cons_of_ne_nil some
  obtain ⟨_, _, rfl⟩ := List.exists_cons_of_ne_nil further
  unfold leading
  split <;> simp_all

/-- What a path says first, if it does not start at the root, is in its first piece. -/
theorem leading_alone {first : List Char} (some : first ≠ []) (more : List (List Char)) :
    leading (first :: more) = leading [first] := by
  unfold leading
  split <;> simp_all

theorem heldBack_subset (others : List (List Char)) : heldBack others ⊆ others := fun _ member =>
  List.mem_reverse.mp ((List.dropWhile_sublist _).subset member)

/-- The last piece that is held back says something. -/
theorem filter_of_heldBack {others remaining : List (List Char)} {last : List Char}
    (held : heldBack others = last :: remaining) :
    (others.filter fun piece => !isIdle piece) =
      (remaining.reverse.filter fun piece => !isIdle piece) ++ [last] := by
  have spoken := List.head?_dropWhile_not isIdle others.reverse
  rw [← heldBack, held] at spoken
  rw [← filter_heldBack, held, List.reverse_cons, List.filter_append, List.filter_singleton, spoken]
  rfl

section Parent

variable {path outer : Path} {first : List Char} {others : List (List Char)}

/-- A path whose first piece is all that it says has one component. -/
theorem components_of_first (shape : pieces path.text.toList = first :: others) (some : first ≠ [])
    (held : heldBack others = []) : ∃ only, path.components = [only] := by
  have idle := filter_heldBack others
  rw [held, List.reverse_nil, List.filter_nil] at idle
  simp only [components, shape, List.filter_cons, leading_alone some, ← idle]
  by_cases dot : first = ['.']
  · exact ⟨.here, by rw [dot]; rfl⟩
  · have spoken : isIdle first = false := by simp [isIdle, some, dot]
    have quiet : leading [first] = [] := by
      unfold leading
      split <;> simp_all
    rw [quiet, spoken]
    exact ⟨componentOf first, rfl⟩

/-- What is above the last piece that says something has all components but that of this piece. -/
theorem components_above {remaining : List (List Char)} {last : List Char}
    (shape : pieces path.text.toList = first :: others) (held : heldBack others = last :: remaining)
    (above : path.parent = some outer) :
    path.components = outer.components ++ [componentOf last] := by
  have plain (piece : List Char) (member : piece ∈ first :: others) : '/' ∉ piece :=
    notMem_of_mem_pieces (shape ▸ member)
  have between := filter_heldBack remaining.reverse
  have many : others ≠ [] := by
    rintro rfl
    cases held
  simp only [components, shape, List.filter_cons, filter_of_heldBack held, ← between]
  cases kept : heldBack remaining.reverse with
  | nil =>
    obtain rfl : outer = ⟨if first.isEmpty then "/" else String.ofList first⟩ := by
      simpa [parent, shape, held, kept] using above.symm
    cases first with
    | nil =>
      obtain ⟨next, more, rfl⟩ := List.exists_cons_of_ne_nil many
      rfl
    | cons c text =>
      have alone := pieces_of_plain (plain (c :: text) List.mem_cons_self)
      rw [leading_alone (List.cons_ne_nil c text), List.isEmpty_cons, if_neg Bool.false_ne_true,
        String.toList_ofList, alone, List.filter_cons]
      split <;> simp
  | cons next further =>
    obtain rfl : outer = ⟨String.ofList (unpieces (first :: (next :: further).reverse))⟩ := by
      simpa [parent, shape, held, kept] using above.symm
    have inside : (next :: further).reverse ⊆ others := by
      intro piece member
      have among := heldBack_subset _ (kept ▸ List.mem_reverse.mp member)
      exact heldBack_subset _ (held ▸ List.mem_cons_of_mem _ (List.mem_reverse.mp among))
    have read := pieces_unpieces (List.cons_ne_nil first (next :: further).reverse)
      fun piece member => plain piece (List.cons_subset_cons first inside member)
    have some : (next :: further).reverse ≠ [] := by simp
    rw [String.toList_ofList, read, leading_cons first many some, List.filter_cons]
    split <;> simp

/-- The path above another one is all of it but the last component. -/
theorem components_parent (above : path.parent = some outer) :
    ∃ last, path.components = outer.components ++ [last] := by
  obtain ⟨first, others, shape⟩ := List.exists_cons_of_ne_nil (pieces_ne_nil path.text.toList)
  cases held : heldBack others with
  | nil =>
    obtain ⟨some, rfl⟩ : first ≠ [] ∧ outer = ⟨""⟩ := by
      cases first <;> simp_all [parent]
    exact components_of_first shape some held
  | cons last remaining => exact ⟨componentOf last, components_above shape held above⟩

/-- A path with nothing above it has no name. -/
theorem fileName_of_parent (top : path.parent = none) : path.fileName = none := by
  obtain ⟨first, others, shape⟩ := List.exists_cons_of_ne_nil (pieces_ne_nil path.text.toList)
  have held : heldBack others = [] := by
    cases held : heldBack others with
    | nil => rfl
    | cons last remaining =>
      simp only [parent, shape, held] at top
      split at top <;> cases top
  obtain rfl : first = [] := by
    simp only [parent, shape, held] at top
    cases first <;> simp_all
  have idle := filter_heldBack others
  rw [held, List.reverse_nil, List.filter_nil] at idle
  simp only [fileName, components, shape, List.filter_cons, ← idle]
  cases others <;> rfl

end Parent

end Path

/-! ### Where components lead -/

/-- The components of a path that follow those of another one. -/
def Path.beyond (path base : Path) : List Component := path.components.drop base.components.length

theorem Path.components_beyond {path base : Path} (starts : path.startsWith base = true) :
    base.components ++ path.beyond base = path.components :=
  List.prefix_iff_eq_append.mp (List.isPrefixOf_iff_prefix.mp starts)

namespace FileSystem

variable {files : FileSystem} {path : Path} {spot : Spot}

/-- The spot that a path names if there is no link. -/
def place (files : FileSystem) (path : Path) : Spot :=
  path.components.foldl Component.go files.current

theorem reach_eq_place (files : FileSystem) (path : Path) :
    Step.reach (files.start path) path.steps = files.place path := by
  have begun : (Path.leading (Path.pieces path.text.toList)).foldl Component.go files.current =
      files.start path := by
    unfold start Path.isAbsolute
    cases path.text.toList with
    | nil => rfl
    | cons c rest =>
      rw [List.head?_cons, Path.pieces]
      obtain ⟨piece, others, shape⟩ := List.exists_cons_of_ne_nil (Path.pieces_ne_nil rest)
      rw [shape]
      by_cases separator : c = '/'
      · simp [separator, Path.leading, Component.go]
      · simp only [if_neg separator, Option.some.injEq, decide_eq_true_eq]
        unfold Path.leading
        split <;> simp_all [Component.go]
  rw [place, Path.components, List.foldl_append, begun, ← Step.reach_pieces_eq, Path.steps,
    Step.reach_append]
  split <;> rfl

/-- In a tree without links every walk ends at the spot that its path names. -/
theorem place_of_walk {through : Bool} (linkless : files.root.Linkless)
    (walk : files.walk through path = .ok (.entry spot)) : spot = files.place path := by
  rw [← reach_eq_place]
  exact (walk_eq_ok.mp walk).2.reached linkless

theorem place_of_find {node : Node} (linkless : files.root.Linkless)
    (found : files.find path = .ok (spot, node)) : spot = files.place path := by
  exact place_of_walk linkless (walk_eq_ok.mpr (land_eq_ok.mp (find_eq_ok.mp found).1).2)

/-- A path that starts with another one goes on from the spot of that one. -/
theorem prefix_place (files : FileSystem) {base : Path} (starts : path.startsWith base = true)
    (inside : Component.staysInside 0 (path.beyond base) = true) :
    files.place base <+: files.place path := by
  have further := Component.prefix_of_staysInside (files.place base) [] inside
  rwa [List.append_nil, place, ← List.foldl_append, Path.components_beyond starts] at further

end FileSystem

end LiveReload
