/-
**Joined paths keep what they are joined from.**

A relative path that is joined to a base goes on from it, whatever either of them spells twice, with
single dots or with a separator at its end: the components of the base come first, then the words of
the path. So the result has the file name of the path.

* `Path.components_of_marks`, `Path.fileName_eq`: what is cut by the marks of a text;
* `Path.components_join`: the components of a joined path;
* `Path.fileName_join`: it ends in the file name that it was joined with.
-/
import LiveReload.Proofs.Files.Extensions

namespace LiveReload

/-! ### Components -/

/-- The component that a piece stands for, among those that come first too. -/
def Component.ofPiece : List Char → Component
  | [] => .root
  | ['.'] => .here
  | ['.', '.'] => .up
  | piece => .name (String.ofList piece)

/-- The piece of a component. -/
def Component.piece : Component → List Char
  | .root => []
  | .here => ['.']
  | .up => ['.', '.']
  | .name text => text.toList

theorem Component.ofPiece_injective : Function.Injective ofPiece := by
  have back : Function.LeftInverse piece ofPiece := by
    intro word
    unfold ofPiece
    split
    · rfl
    · rfl
    · rfl
    · exact String.toList_ofList
  exact back.injective

namespace Path

variable {path : Path}

/-- What a path says first, and its words. -/
theorem components_eq (path : Path) :
    path.components = leading (pieces path.text.toList) ++ path.words.map componentOf := rfl

theorem components_empty : (Path.mk "").components = [] := rfl

/-- What a path says first is told by its first piece. -/
theorem leading_eq (pieces : List (List Char)) :
    leading pieces = (Marks.text.leading pieces).map Component.ofPiece := by
  rcases pieces with _ | ⟨first, _ | ⟨next, others⟩⟩
  · rfl
  · by_cases dot : first = ['.']
    · rw [dot]
      rfl
    · have silent : Marks.text.leading [first] = [] := if_neg (by simp [Marks.text, dot])
      rw [silent]
      unfold leading
      split <;> simp_all
  · by_cases said : first = ['.'] ∨ first = []
    · rcases said with rfl | rfl <;> rfl
    · rw [not_or] at said
      have silent : Marks.text.leading (first :: next :: others) = [] :=
        if_neg (by simp [Marks.text, said])
      rw [silent]
      unfold leading
      split <;> simp_all

/-- A piece that says something stands for a component of its own. -/
theorem map_componentOf (path : Path) :
    path.words.map componentOf =
      (Marks.text.words path.text.toList).map Component.ofPiece := by
  rw [words_eq]
  refine List.map_congr_left fun piece member => ?_
  have said : isIdle piece = false := by simpa [isIdle_eq] using (List.mem_filter.mp member).2
  unfold Component.ofPiece
  split
  · cases said
  · cases said
  · rfl
  · next level => exact if_neg level

/-- The components of a path can be read off its pieces. -/
theorem components_of_marks (path : Path) :
    path.components = (Marks.text.components path.text.toList).map Component.ofPiece := by
  rw [components_eq, leading_eq, map_componentOf, Marks.components, List.map_append,
    pieces_eq_splitOn]
  rfl

/-- **A relative path goes on from its base.** -/
theorem components_join {base : Path} (spelled : base.text ≠ "")
    (relative : path.isAbsolute = false) :
    (base.join path).components = base.components ++ path.words.map componentOf := by
  have filled : base.text.toList ≠ [] := fun empty => spelled (String.toList_inj.mp empty)
  rw [components_of_marks, join_eq,
    Marks.text.components_join filled (head?_of_relative relative), List.map_append,
    ← components_of_marks, map_componentOf]

/-! ### File names -/

/-- The last word of a path is its file name, unless it goes up. -/
theorem fileName_of_words {front : List (List Char)} {word : List Char}
    (words : path.words = front ++ [word]) (level : word ≠ ['.', '.']) :
    path.fileName = some (String.ofList word) := by
  unfold fileName
  rw [components_eq, words, List.map_append, ← List.append_assoc, List.map_singleton,
    List.getLast?_concat, componentOf, if_neg level]

/-- A file name is the last word of the path. -/
theorem words_of_fileName {name : String} (named : path.fileName = some name) :
    name.toList ≠ ['.', '.'] ∧ ∃ front, path.words = front ++ [name.toList] := by
  obtain ⟨level, before, after, ends⟩ := exists_endsIn named
  have silent : (after.filter fun piece => !isIdle piece) = [] :=
    List.filter_eq_nil_iff.mpr fun piece member => by simp [ends.idle piece member]
  refine ⟨level, before.filter fun piece => !isIdle piece, ?_⟩
  rw [words, wordsOf, ends.pieces, List.filter_append,
    List.filter_cons_of_pos (by simp [ends.told]), silent]

/-- The file name of a path can be read off its last word. -/
theorem fileName_eq (path : Path) :
    path.fileName = (Marks.text.fileName path.text.toList).map String.ofList := by
  rw [Marks.fileName, ← words_eq]
  rcases List.eq_nil_or_concat' path.words with silent | ⟨front, word, split⟩
  · -- Without words a path is empty, a root or a leading dot.
    cases named : path.fileName with
    | none => rw [silent]; rfl
    | some name =>
      obtain ⟨-, front, split⟩ := words_of_fileName named
      rw [silent] at split
      cases front <;> cases split
  · rw [split, List.getLast?_concat]
    by_cases level : word = ['.', '.']
    · have up : path.components.getLast? = some .up := by
        rw [components_eq, split, List.map_append, ← List.append_assoc, List.map_singleton,
          List.getLast?_concat, componentOf, if_pos level]
      rw [fileName, up, level]
      rfl
    · have kept : (some word).filter (fun piece => piece ≠ [Marks.text.dot, Marks.text.dot]) =
          some word := if_pos (decide_eq_true level)
      rw [fileName_of_words split level, kept, Option.map_some]

/-- A joined path has the file name that it was joined with. -/
theorem fileName_join (base : Path) {name : String} (named : path.fileName = some name) :
    (base.join path).fileName = some name := by
  rw [fileName_eq] at named
  obtain ⟨word, last, rfl⟩ := Option.map_eq_some_iff.mp named
  rw [fileName_eq, join_eq, Marks.text.fileName_join _ last, Option.map_some]

end Path

end LiveReload
