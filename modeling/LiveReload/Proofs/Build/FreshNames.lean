/-
**Artifacts are never named twice.**

The path of an artifact is a text that all artifacts of its directory and stem begin with, followed
by a tag of the session and the count. The tag holds no separator, whatever the directory and the
stem hold, so it ends the last component of the path; and its two numbers stand between dashes and
are written in digits, so it is read in one way.

* `ArtifactNames.lead`, `ArtifactNames.tag`: the two parts (`toList_path`);
* `Path.pieces_append`: what holds no separator is added to the last piece;
* `ArtifactNames.path_inj`: paths with the same components have the same session and count.
-/
import LiveReload.Build.ArtifactNames
import Mathlib.Data.List.Basic

namespace LiveReload

namespace Path

/-- The last piece of a text. -/
def lastPiece (text : List Char) : List Char := (pieces text).getLast (pieces_ne_nil text)

theorem pieces_of_plain {text : List Char} (plain : '/' ∉ text) : pieces text = [text] := by
  induction text with
  | nil => rfl
  | cons c rest ih =>
    rw [List.mem_cons, not_or] at plain
    rw [pieces, if_neg (Ne.symm plain.1), ih plain.2]

/-- What holds no separator is added to the last piece. -/
theorem pieces_append (text : List Char) {more : List Char} (plain : '/' ∉ more) :
    pieces (text ++ more) = (pieces text).dropLast ++ [lastPiece text ++ more] := by
  induction text with
  | nil => simp [pieces_of_plain plain, pieces, lastPiece]
  | cons c rest ih =>
    have some := pieces_ne_nil rest
    by_cases separator : c = '/'
    · subst separator
      have split : pieces ('/' :: rest) = [] :: pieces rest := rfl
      rw [List.cons_append, pieces, if_pos rfl, ih]
      simp only [lastPiece, split, List.dropLast_cons_of_ne_nil some, List.getLast_cons some,
        List.cons_append]
    · rw [List.cons_append, pieces, if_neg separator, ih]
      cases shape : pieces rest with
      | nil => exact absurd shape some
      | cons piece others =>
        have split : pieces (c :: rest) = (c :: piece) :: others := by
          rw [pieces, if_neg separator, shape]
        cases others with
        | nil => simp [lastPiece, split, shape]
        | cons next more =>
          simp only [lastPiece, split, shape, List.dropLast_cons_cons, List.cons_append,
            List.getLast_cons_cons]

/-- What is added to a path that is joined is added to the result. -/
theorem join_append (base : Path) (front back : String)
    (start : front.toList = [] → back.toList.head? ≠ some '/') :
    (base.join ⟨front ++ back⟩).text = (base.join ⟨front⟩).text ++ back := by
  have absolute : (Path.mk (front ++ back)).isAbsolute = (Path.mk front).isAbsolute := by
    unfold isAbsolute
    rw [String.toList_append]
    cases shape : front.toList with
    | nil => simpa [shape] using start shape
    | cons c rest => rfl
  unfold join
  rw [absolute]
  by_cases alone : (Path.mk front).isAbsolute = true
  · rw [if_pos alone, if_pos alone]
  · rw [if_neg alone, if_neg alone]
    split <;> simp [String.append_assoc]

end Path

namespace ArtifactNames

/-- What all paths of a directory and a stem begin with. -/
def lead (names : ArtifactNames) : List Char := (names.dir.join ⟨names.stem⟩).text.toList

/-- What tells the paths of a directory and a stem apart. -/
def tag (names : ArtifactNames) (count : Nat) : List Char :=
  '-' :: (Nat.toDigits 10 names.session ++ '-' :: (Nat.toDigits 10 count ++ ['.', 's', 'o']))

/-- The name of an artifact in its directory. -/
def name (names : ArtifactNames) (count : Nat) : String :=
  String.ofList (Path.lastPiece names.lead ++ names.tag count)

theorem toList_path (names : ArtifactNames) (count : Nat) :
    (names.path count).text.toList = names.lead ++ names.tag count := by
  have parts : names.fileName count = names.stem ++ String.ofList (names.tag count) := by
    apply String.toList_inj.mp
    simp [fileName, tag, toString, Nat.toList_repr]
  rw [path, parts, Path.join_append]
  · rw [String.toList_append, String.toList_ofList, lead]
  · simp [tag]

theorem notMem_digits {c : Char} (other : c.isDigit = false) (number : Nat) :
    c ∉ Nat.toDigits 10 number := by
  intro digit
  rw [Nat.isDigit_of_mem_toDigits (by decide) (by decide) digit] at other
  cases other

theorem digits_inj {first second : Nat}
    (same : Nat.toDigits 10 first = Nat.toDigits 10 second) : first = second := by
  have values := congrArg (fun digits => Nat.ofDigitChars 10 digits 0) same
  simpa using values

/-- A tag is made of digits, dashes and the ending. -/
theorem notMem_tag {c : Char} (digit : c.isDigit = false) (other : c ∉ ['-', '.', 's', 'o'])
    (names : ArtifactNames) (count : Nat) : c ∉ names.tag count := by
  have session := notMem_digits digit names.session
  have number := notMem_digits digit count
  simp_all [tag]

/-- A tag is read in one way. -/
theorem tag_inj {names other : ArtifactNames} {count more : Nat}
    (same : names.tag count = other.tag more) :
    names.session = other.session ∧ count = more := by
  have sessions : '-' ∉ Nat.toDigits 10 names.session := notMem_digits rfl _
  have counts : '-' ∉ Nat.toDigits 10 count ++ ['.', 's', 'o'] := by
    rw [List.mem_append, not_or]
    exact ⟨notMem_digits rfl _, by decide⟩
  obtain ⟨first, _, second⟩ :=
    (List.append_cons_inj_of_notMem sessions counts).mp (List.cons.inj same).2
  exact ⟨digits_inj first, digits_inj (List.append_cancel_right second)⟩

/-- The pieces of a path: the tag ends the last one. -/
theorem pieces_path (names : ArtifactNames) (count : Nat) :
    Path.pieces (names.path count).text.toList =
      (Path.pieces names.lead).dropLast ++ [(names.name count).toList] := by
  rw [toList_path, Path.pieces_append _ (notMem_tag rfl (by decide) names count), name,
    String.toList_ofList]

theorem name_inj {names other : ArtifactNames} {count more : Nat} (lead : names.lead = other.lead)
    (same : names.name count = other.name more) :
    names.session = other.session ∧ count = more := by
  have texts := congrArg String.toList same
  rw [name, name, String.toList_ofList, String.toList_ofList, lead] at texts
  exact tag_inj (List.append_cancel_left texts)

/-- The name of an artifact is a name, and not a dot or two. -/
theorem name_shape (names : ArtifactNames) (count : Nat) :
    (names.name count).toList.getLast? = some 'o' := by
  simp [name, tag, List.getLast?_append, List.getLast?_cons]

theorem components_getLast? (names : ArtifactNames) (count : Nat) :
    (names.path count).components.getLast? = some (.name (names.name count)) := by
  have shape := names.name_shape count
  have busy : Path.isIdle (names.name count).toList = false := by
    unfold Path.isIdle
    cases chars : (names.name count).toList with
    | nil => simp [chars] at shape
    | cons c rest =>
      rw [chars] at shape
      simp
      rintro rfl rfl
      simp at shape
  have single : Path.componentOf (names.name count).toList = .name (names.name count) := by
    unfold Path.componentOf
    rw [if_neg, String.ofList_toList]
    intro dots
    rw [dots] at shape
    simp at shape
  rw [Path.components, pieces_path, List.filter_append, List.map_append, ← List.append_assoc,
    List.getLast?_append]
  simp [busy, single]

/-- **Artifacts are never named twice.** Paths of the same directory and stem that have the same
components are of the same session and have the same count. -/
theorem path_inj {names other : ArtifactNames} {count more : Nat} (dir : names.dir = other.dir)
    (stem : names.stem = other.stem)
    (same : (names.path count).same (other.path more) = true) :
    names.session = other.session ∧ count = more := by
  have components : (names.path count).components = (other.path more).components :=
    of_decide_eq_true same
  have lasts := congrArg List.getLast? components
  rw [components_getLast?, components_getLast?, Option.some_inj, Component.name.injEq] at lasts
  exact name_inj (by rw [lead, lead, dir, stem]) lasts

end ArtifactNames

end LiveReload
