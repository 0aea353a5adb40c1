/-
**Spellings are cut at their marks, over any alphabet.**

A path is cut into pieces at separators, and its file name at a dot. What a joined spelling says can
be told by the words of both parts. A reading over another alphabet that leaves all marks in place,
makes none of its own and reads no word as nothing, may come before or after all of this.

* `Marks.components_join`, `Marks.words_join`, `Marks.fileName_join`: joined spellings;
* `Marks.exists_last_dot`, `Marks.beforeDot_append`, `Marks.afterDot_append`: names;
* `Marks.Keeps`: a reading that leaves one mark in place;
* `Marks.Reads`: a reading that leaves all marks in place;
* `Path.pieces_eq_splitOn`, `Path.join_eq`: texts are cut and joined by their marks.
-/
import LiveReload.RawPath
import Mathlib.Data.List.TakeWhile
import Mathlib.Data.Nat.Init

namespace LiveReload

namespace Marks

/-! ### Joined spellings -/

section Joined

variable {α : Type} [DecidableEq α] (marks : Marks α) {base spelling name : List α}

theorem words_append_cons (front rest : List α) :
    marks.words (front ++ marks.separator :: rest) = marks.words front ++ marks.words rest := by
  rw [words, List.splitOn_append_cons_self, List.filter_append, words, words]

theorem words_nil : marks.words [] = [] := rfl

/-- What is said first does not depend on what comes later. -/
theorem leading_append {first : List (List α)} (some : first ≠ []) {others more : List (List α)}
    (later : others ≠ []) (further : more ≠ []) :
    marks.leading (first ++ others) = marks.leading (first ++ more) := by
  obtain ⟨piece, rest, rfl⟩ := List.exists_cons_of_ne_nil some
  simp [leading, later, further]

/-- A spelling that goes on says first what it said before. -/
theorem leading_separated (filled : base ≠ []) (more : List α) :
    marks.leading ((base ++ marks.separator :: more).splitOn marks.separator) =
      marks.leading (base.splitOn marks.separator) := by
  have further : more.splitOn marks.separator ≠ [] := List.splitOn_ne_nil _ _
  rw [List.splitOn_append_cons_self]
  by_cases whole : marks.separator ∈ base
  · obtain ⟨front, rest, rfl⟩ := List.append_of_mem whole
    have later : rest.splitOn marks.separator ≠ [] := List.splitOn_ne_nil _ _
    rw [List.splitOn_append_cons_self, List.append_assoc]
    exact marks.leading_append (List.splitOn_ne_nil _ _) (List.append_ne_nil_of_left_ne_nil later _)
      later
  · rw [List.splitOn_eq_singleton whole]
    simp [leading, filled]

/-- A relative spelling adds its words to those of its base. -/
theorem words_join (base : List α) (relative : spelling.head? ≠ some marks.separator) :
    marks.words (marks.join base spelling) = marks.words base ++ marks.words spelling := by
  rw [join, if_neg relative]
  by_cases filled : base = []
  · rw [if_pos (.inl filled), filled, words_nil, List.nil_append, List.nil_append]
  · by_cases adjacent : base.getLast? = some marks.separator
    · obtain ⟨front, rfl⟩ := List.getLast?_eq_some_iff.mp adjacent
      rw [if_pos (.inr adjacent), List.append_assoc, List.singleton_append, words_append_cons,
        words_append_cons, words_nil, List.append_nil]
    · rw [if_neg (not_or.mpr ⟨filled, adjacent⟩), words_append_cons]

/-- A joined spelling says first what its base says first. -/
theorem leading_join (filled : base ≠ []) (relative : spelling.head? ≠ some marks.separator) :
    marks.leading ((marks.join base spelling).splitOn marks.separator) =
      marks.leading (base.splitOn marks.separator) := by
  rw [join, if_neg relative]
  by_cases adjacent : base.getLast? = some marks.separator
  · obtain ⟨front, rfl⟩ := List.getLast?_eq_some_iff.mp adjacent
    rw [if_pos (.inr adjacent), List.append_assoc, List.singleton_append,
      List.splitOn_append_cons_self, List.splitOn_append_cons_self]
    exact marks.leading_append (List.splitOn_ne_nil _ _) (List.splitOn_ne_nil _ _)
      (List.splitOn_ne_nil _ _)
  · rw [if_neg (not_or.mpr ⟨filled, adjacent⟩), marks.leading_separated filled]

/-- **A relative spelling goes on from its base.** -/
theorem components_join (filled : base ≠ []) (relative : spelling.head? ≠ some marks.separator) :
    marks.components (marks.join base spelling) =
      marks.components base ++ marks.words spelling := by
  rw [components, marks.leading_join filled relative, marks.words_join base relative,
    ← List.append_assoc, ← components]

/-- A joined spelling has the file name that it was joined with. -/
theorem fileName_join (base : List α) (named : marks.fileName spelling = some name) :
    marks.fileName (marks.join base spelling) = some name := by
  by_cases absolute : spelling.head? = some marks.separator
  · rwa [join, if_pos absolute]
  · obtain ⟨last, -⟩ := Option.filter_eq_some_iff.mp named
    rw [fileName, last] at named
    rwa [fileName, marks.words_join base absolute, List.getLast?_append, last, Option.some_or]

end Joined

/-! ### Names that are cut at their last dot -/

section Names

variable {α : Type} [DecidableEq α] (marks : Marks α)

theorem passed_of_dotless {name : List α} (dotless : marks.dot ∉ name) :
    ∀ c ∈ name.reverse, decide (c ≠ marks.dot) = true := fun _ member =>
  decide_eq_true fun same => dotless (List.mem_reverse.mp (same ▸ member))

theorem beforeDot_of_dotless {name : List α} (dotless : marks.dot ∉ name) :
    marks.beforeDot name = [] := by
  rw [beforeDot, List.dropWhile_eq_nil_iff.mpr (marks.passed_of_dotless dotless)]
  rfl

theorem beforeDot_append (front : List α) {back : List α} (dotless : marks.dot ∉ back) :
    marks.beforeDot (front ++ marks.dot :: back) = front := by
  rw [beforeDot, List.reverse_append, List.reverse_cons, List.append_assoc,
    List.dropWhile_append_of_pos (marks.passed_of_dotless dotless), List.singleton_append,
    List.dropWhile_cons_of_neg (by simp), List.drop_one, List.tail_cons, List.reverse_reverse]

theorem afterDot_append (front : List α) {back : List α} (dotless : marks.dot ∉ back) :
    marks.afterDot (front ++ marks.dot :: back) = back := by
  rw [afterDot, List.reverse_append, List.reverse_cons, List.append_assoc,
    List.takeWhile_append_of_pos (marks.passed_of_dotless dotless), List.singleton_append,
    List.takeWhile_cons_of_neg (by simp), List.append_nil, List.reverse_reverse]

omit [DecidableEq α] in
/-- A name with a dot has one after which there is no other. -/
theorem exists_last_dot {name : List α} (member : marks.dot ∈ name) :
    ∃ front back, name = front ++ marks.dot :: back ∧ marks.dot ∉ back := by
  obtain ⟨back, front, split, dotless⟩ := List.eq_append_cons_of_mem (List.mem_reverse.mpr member)
  refine ⟨front.reverse, back.reverse, ?_, fun there => dotless (List.mem_reverse.mp there)⟩
  rw [← List.reverse_reverse name, split]
  simp

end Names

/-! ### Readings that leave marks in place -/

/-- The reading cuts at a mark as it stands there, and makes none of its own. -/
structure Keeps {α β : Type} (read : List α → List β) (mark : α) (there : β) : Prop where
  cut : ∀ front rest, read (front ++ mark :: rest) = read front ++ there :: read rest
  unmarked : ∀ word, mark ∉ word → there ∉ read word

namespace Keeps

variable {α β : Type} {read : List α → List β} {mark : α} {there : β}

/-- What is cut at a mark may be read before or after. -/
theorem splitOn [DecidableEq α] [DecidableEq β] (keeps : Keeps read mark there) (word : List α) :
    (read word).splitOn there = (word.splitOn mark).map read := by
  induction size : word.length using Nat.strong_induction_on generalizing word with
  | _ length ih =>
    by_cases member : mark ∈ word
    · obtain ⟨front, rest, rfl, apart⟩ := List.eq_append_cons_of_mem member
      have shorter : rest.length < length := by
        rw [← size, List.length_append, List.length_cons]
        omega
      rw [keeps.cut, List.splitOn_append_cons_self_of_not_mem apart,
        List.splitOn_append_cons_self_of_not_mem (keeps.unmarked front apart),
        ih rest.length shorter rest rfl, List.map_cons]
    · rw [List.splitOn_eq_singleton member, List.splitOn_eq_singleton (keeps.unmarked word member)]
      rfl

variable (keeps : Keeps read mark there) (nil : ∀ word, read word = [] ↔ word = [])

include keeps in
theorem mem_of_read {word : List α} (member : there ∈ read word) : mark ∈ word := by
  by_contra apart
  exact keeps.unmarked word apart member

include keeps nil

/-- A word starts with a mark if it is read so. -/
theorem eq_cons_iff (word : List α) (more : List β) :
    read word = there :: more ↔ ∃ rest, word = mark :: rest ∧ read rest = more := by
  constructor
  · intro starts
    have member : mark ∈ word := keeps.mem_of_read (starts ▸ List.mem_cons_self)
    obtain ⟨front, rest, rfl, apart⟩ := List.eq_append_cons_of_mem member
    rw [keeps.cut] at starts
    cases ahead : read front with
    | nil =>
      rw [ahead, List.nil_append] at starts
      exact ⟨rest, by rw [(nil front).mp ahead, List.nil_append], (List.cons.inj starts).2⟩
    | cons first others =>
      rw [ahead, List.cons_append] at starts
      refine absurd ?_ (keeps.unmarked front apart)
      rw [ahead, (List.cons.inj starts).1]
      exact List.mem_cons_self
  · rintro ⟨rest, rfl, rfl⟩
    have cut := keeps.cut [] rest
    rwa [(nil []).mpr rfl, List.nil_append, List.nil_append] at cut

theorem head?_iff (word : List α) : (read word).head? = some there ↔ word.head? = some mark := by
  rw [List.head?_eq_some_iff, List.head?_eq_some_iff]
  constructor
  · rintro ⟨more, starts⟩
    obtain ⟨rest, rfl, -⟩ := (keeps.eq_cons_iff nil word more).mp starts
    exact ⟨rest, rfl⟩
  · rintro ⟨rest, rfl⟩
    exact ⟨read rest, (keeps.eq_cons_iff nil _ _).mpr ⟨rest, rfl, rfl⟩⟩

/-- A word ends with a mark if it is read so. -/
theorem getLast?_iff (word : List α) :
    (read word).getLast? = some there ↔ word.getLast? = some mark := by
  constructor
  · intro ends
    obtain ⟨back, front, split, apart⟩ := List.eq_append_cons_of_mem
      (List.mem_reverse.mpr (keeps.mem_of_read (List.mem_of_getLast? ends)))
    obtain rfl : word = front.reverse ++ mark :: back.reverse := by
      rw [← List.reverse_reverse word, split]
      simp
    rw [keeps.cut, List.getLast?_append, List.getLast?_cons] at ends
    cases last : (read back.reverse).getLast? with
    | none =>
      have empty : back.reverse = [] := (nil _).mp (List.getLast?_eq_none_iff.mp last)
      rw [empty, List.getLast?_concat]
    | some final =>
      obtain rfl : final = there := by simpa [last] using ends
      exact absurd (keeps.mem_of_read (List.mem_of_getLast? last))
        fun member => apart (List.mem_reverse.mp member)
  · intro ends
    obtain ⟨front, rfl⟩ := List.getLast?_eq_some_iff.mp ends
    rw [keeps.cut, (nil []).mpr rfl, List.getLast?_concat]

end Keeps

/-- The reading leaves separators and dots in place, and reads no word as nothing. -/
structure Reads {α β : Type} (source : Marks α) (target : Marks β) (read : List α → List β) :
    Prop where
  nil : ∀ word, read word = [] ↔ word = []
  separator : Keeps read source.separator target.separator
  dot : Keeps read source.dot target.dot

namespace Reads

variable {α β : Type} [DecidableEq α] [DecidableEq β] {source : Marks α} {target : Marks β}
  {read : List α → List β}

omit [DecidableEq α] [DecidableEq β] in
theorem eq_dot_iff (reads : Reads source target read) (word : List α) :
    read word = [target.dot] ↔ word = [source.dot] := by
  rw [reads.dot.eq_cons_iff reads.nil]
  simp only [reads.nil]
  constructor
  · rintro ⟨rest, rfl, rfl⟩
    rfl
  · rintro rfl
    exact ⟨[], rfl, rfl⟩

omit [DecidableEq α] [DecidableEq β] in
theorem eq_dots_iff (reads : Reads source target read) (word : List α) :
    read word = [target.dot, target.dot] ↔ word = [source.dot, source.dot] := by
  rw [reads.dot.eq_cons_iff reads.nil]
  simp only [reads.eq_dot_iff]
  constructor
  · rintro ⟨rest, rfl, rfl⟩
    rfl
  · rintro rfl
    exact ⟨_, rfl, rfl⟩

theorem words (reads : Reads source target read) (spelling : List α) :
    target.words (read spelling) = (source.words spelling).map read := by
  have told : (fun piece => !target.isIdle piece) ∘ read = fun piece => !source.isIdle piece := by
    funext piece
    simp only [Function.comp_apply, isIdle, decide_eq_decide.mpr (reads.nil piece),
      decide_eq_decide.mpr (reads.eq_dot_iff piece)]
  rw [Marks.words, reads.separator.splitOn, List.filter_map, told, Marks.words]

theorem components (reads : Reads source target read) (spelling : List α) :
    target.components (read spelling) = (source.components spelling).map read := by
  have leading (pieces : List (List α)) :
      target.leading (pieces.map read) = (source.leading pieces).map read := by
    cases pieces with
    | nil => rfl
    | cons first others =>
      simp only [List.map_cons, Marks.leading, reads.nil, reads.eq_dot_iff, ne_eq,
        List.map_eq_nil_iff]
      split <;> rfl
  rw [Marks.components, reads.separator.splitOn, leading, reads.words, ← List.map_append,
    Marks.components]

theorem fileName (reads : Reads source target read) (spelling : List α) :
    target.fileName (read spelling) = (source.fileName spelling).map read := by
  have level : (fun piece => decide (piece ≠ [target.dot, target.dot])) ∘ read =
      fun piece => decide (piece ≠ [source.dot, source.dot]) :=
    funext fun piece => decide_eq_decide.mpr (not_congr (reads.eq_dots_iff piece))
  rw [Marks.fileName, reads.words, List.getLast?_map, Option.filter_map, level, Marks.fileName]

/-- What stands on both sides of the last dot. -/
theorem around (reads : Reads source target read) (name : List α) :
    target.beforeDot (read name) = read (source.beforeDot name) ∧
      (source.dot ∈ name → target.afterDot (read name) = read (source.afterDot name)) := by
  by_cases member : source.dot ∈ name
  · obtain ⟨front, back, rfl, dotless⟩ := source.exists_last_dot member
    have quiet := reads.dot.unmarked back dotless
    rw [reads.dot.cut, beforeDot_append source front dotless, beforeDot_append target _ quiet,
      afterDot_append source front dotless, afterDot_append target _ quiet]
    exact ⟨rfl, fun _ => rfl⟩
  · rw [beforeDot_of_dotless source member, (reads.nil []).mpr rfl]
    exact ⟨beforeDot_of_dotless target (reads.dot.unmarked name member),
      fun dot => absurd dot member⟩

theorem stem (reads : Reads source target read) (spelling : List α) :
    target.stem (read spelling) = (source.stem spelling).map read := by
  have cut (name : List α) : target.cut (read name) = read (source.cut name) := by
    rw [Marks.cut, (reads.around name).1, Marks.cut]
    simp only [reads.nil]
    split <;> rfl
  rw [Marks.stem, reads.fileName, Marks.stem, Option.map_map, Option.map_map]
  exact congrArg (Option.map · _) (funext cut)

theorem extension (reads : Reads source target read) (spelling : List α) :
    target.extension (read spelling) = (source.extension spelling).map read := by
  have cut (name : List α) :
      target.extensionOf (read name) = (source.extensionOf name).map read := by
    obtain ⟨before, after⟩ := reads.around name
    rw [extensionOf, before, extensionOf]
    simp only [reads.nil]
    by_cases whole : source.beforeDot name = []
    · rw [if_pos whole, if_pos whole, Option.map_none]
    · have dot : source.dot ∈ name := by
        by_contra dotless
        exact whole (source.beforeDot_of_dotless dotless)
      rw [if_neg whole, if_neg whole, after dot, Option.map_some]
  rw [Marks.extension, reads.fileName, Marks.extension, Option.bind_map, Option.map_bind]
  exact congrArg (Option.bind _) (funext cut)

theorem join (reads : Reads source target read) (base spelling : List α) :
    target.join (read base) (read spelling) = read (source.join base spelling) := by
  have absolute := reads.separator.head?_iff reads.nil spelling
  have adjacent := reads.separator.getLast?_iff reads.nil base
  rw [Marks.join, Marks.join]
  simp only [absolute, adjacent, reads.nil]
  split
  · rfl
  · split
    · next ends =>
      rcases ends with rfl | ends
      · rw [(reads.nil []).mpr rfl, List.nil_append, List.nil_append]
      · obtain ⟨front, rfl⟩ := List.getLast?_eq_some_iff.mp ends
        rw [List.append_assoc, List.singleton_append, reads.separator.cut, reads.separator.cut,
          (reads.nil []).mpr rfl, List.append_assoc, List.singleton_append]
    · rw [reads.separator.cut]

end Reads

end Marks

/-! ### Texts -/

namespace Path

theorem pieces_eq_splitOn (text : List Char) : pieces text = text.splitOn '/' := by
  induction text with
  | nil => rfl
  | cons c rest ih =>
    rw [pieces, List.splitOn_cons_eq_if_modifyHead, ← ih]
    by_cases separator : c = '/'
    · rw [if_pos separator, if_pos (beq_iff_eq.mpr separator)]
    · rw [if_neg separator, if_neg (by simpa using separator)]
      cases shape : pieces rest with
      | nil => exact absurd shape (pieces_ne_nil rest)
      | cons piece others => rfl

theorem isIdle_eq (piece : List Char) : isIdle piece = Marks.text.isIdle piece := by
  cases piece <;> rfl

theorem isAbsolute_iff {path : Path} : path.isAbsolute = true ↔
    path.text.toList.head? = some Marks.text.separator := decide_eq_true_iff

theorem head?_of_relative {path : Path} (relative : path.isAbsolute = false) :
    path.text.toList.head? ≠ some Marks.text.separator := of_decide_eq_false relative

/-- The spelling of a joined path. -/
theorem join_eq (base path : Path) :
    (base.join path).text.toList = Marks.text.join base.text.toList path.text.toList := by
  have adjacent : (base.text.isEmpty || base.text.toList.getLast? = some '/') = true ↔
      base.text.toList = [] ∨ base.text.toList.getLast? = some Marks.text.separator := by
    rw [Bool.or_eq_true, String.isEmpty_iff, String.toList_eq_nil_iff, decide_eq_true_eq]
    rfl
  unfold join Marks.join
  by_cases absolute : path.isAbsolute = true
  · rw [if_pos absolute, if_pos (isAbsolute_iff.mp absolute)]
  · rw [if_neg absolute, if_neg (mt isAbsolute_iff.mpr absolute)]
    by_cases ends : (base.text.isEmpty || base.text.toList.getLast? = some '/') = true
    · rw [if_pos ends, if_pos (adjacent.mp ends), String.toList_append]
    · rw [if_neg ends, if_neg (mt adjacent.mpr ends), String.toList_append, String.toList_append,
        List.append_assoc]
      rfl

end Path

end LiveReload
