/-
**A file name with another extension.**

To replace an extension, first the length of the old one is cut off the end of the spelling, and
then the new one is set. The first cut may reach less of the file name, if separators follow it, but
never more than the old extension. The path above stays, and the file name keeps its stem, but for
one spelling: if it ends in a file name with the stem `.`, two dots are left of that, which are no
file name, and no extension is set.

* `Path.EndsIn`: a spelling, cut before and after the last piece that says something, which every
  path with a file name has (`Path.exists_endsIn`);
* `Path.cutName_append`, `Path.cutName_cases`: where a file name is cut;
* `Path.EndsIn.setExtension`, `Path.EndsIn.shortened`: the end of a spelling after each of the cuts;
* `Path.CutsUp`: the spelling that ends in two dots without its extension;
* `Path.components_withExtension`: the components with another extension.
-/
import LiveReload.Proofs.Files.Places

namespace LiveReload

namespace Path

/-! ### The end of a spelling -/

/-- Pieces, each with a separator after it. -/
def ahead (before : List (List Char)) : List Char := before.flatMap (· ++ ['/'])

/-- Pieces, each with a separator before it. -/
def behind (after : List (List Char)) : List Char := after.flatMap ('/' :: ·)

theorem unpieces_append (before : List (List Char)) (word : List Char)
    (after : List (List Char)) :
    unpieces (before ++ word :: after) = ahead before ++ word ++ behind after := by
  induction before generalizing word after with
  | nil =>
    induction after generalizing word with
    | nil => simp [unpieces, ahead, behind]
    | cons piece rest ih =>
      have later := ih piece
      simp only [ahead, List.flatMap_nil, List.nil_append] at later ⊢
      rw [unpieces, later]
      · simp [behind]
      · simp
  | cons piece rest ih =>
    rw [List.cons_append, unpieces, ih]
    · simp [ahead]
    · simp

theorem behind_eq_nil {after : List (List Char)} : behind after = [] ↔ after = [] := by
  cases after <;> simp [behind]

/-- The beginning of separators and single dots after a file name is of the same kind. -/
theorem exists_behind_take {after : List (List Char)}
    (idle : ∀ piece ∈ after, isIdle piece = true) (count : Nat) :
    ∃ fewer, (∀ piece ∈ fewer, isIdle piece = true) ∧
      (behind after).take count = behind fewer := by
  induction after generalizing count with
  | nil => exact ⟨[], by simp, by simp [behind]⟩
  | cons piece rest ih =>
    cases count with
    | zero => exact ⟨[], by simp, rfl⟩
    | succ count =>
      obtain ⟨fewer, quiet, short⟩ :=
        ih (fun other member => idle other (List.mem_cons_of_mem _ member)) (count - piece.length)
      have part : isIdle (piece.take count) = true := by
        rcases Bool.or_eq_true_iff.mp (idle piece List.mem_cons_self) with empty | dot
        · rw [List.isEmpty_iff.mp empty, List.take_nil]
          rfl
        · rw [of_decide_eq_true dot]
          cases count with
          | zero => rfl
          | succ count => rw [List.take_succ_cons, List.take_nil]; rfl
      refine ⟨piece.take count :: fewer, List.forall_mem_cons.mpr ⟨part, quiet⟩, ?_⟩
      show '/' :: (piece ++ behind rest).take count = '/' :: (piece.take count ++ behind fewer)
      rw [List.take_append, short]

/-- The path is spelled with `word` as the last piece that says something. -/
structure EndsIn (path : Path) (before : List (List Char)) (word : List Char)
    (after : List (List Char)) : Prop where
  pieces : pieces path.text.toList = before ++ word :: after
  told : isIdle word = false
  idle : ∀ piece ∈ after, isIdle piece = true

/-- The components of a path before the last one, which follows the pieces `before`. -/
def above (before : List (List Char)) : List Component :=
  leading (before ++ [['.', '.']]) ++ (before.filter fun piece => !isIdle piece).map componentOf

namespace EndsIn

variable {path : Path} {before after : List (List Char)} {word : List Char}

theorem text (ends : path.EndsIn before word after) :
    path.text.toList = ahead before ++ word ++ behind after := by
  rw [← unpieces_append, ← ends.pieces, unpieces_pieces]

/-- A text that is put together from pieces is spelled with them. -/
theorem of_text (text : path.text.toList = ahead before ++ word ++ behind after)
    (plain : ∀ piece ∈ before ++ [word], '/' ∉ piece) (told : isIdle word = false)
    (idle : ∀ piece ∈ after, isIdle piece = true) : path.EndsIn before word after where
  pieces := by
    rw [text, ← unpieces_append, pieces_unpieces (by simp)]
    intro piece member
    rcases List.mem_append.mp member with here | there
    · exact plain piece (List.mem_append_left _ here)
    · rcases List.mem_cons.mp there with rfl | later
      · exact plain piece (List.mem_append_right _ List.mem_cons_self)
      · rcases Bool.or_eq_true_iff.mp (idle piece later) with empty | dot
        · simp [List.isEmpty_iff.mp empty]
        · simp [of_decide_eq_true dot]
  told := told
  idle := idle

theorem plain (ends : path.EndsIn before word after) :
    ∀ piece ∈ before ++ [word], '/' ∉ piece := by
  intro piece member
  have among : piece ∈ Path.pieces path.text.toList := by
    rw [ends.pieces, List.append_cons]
    exact List.mem_append_left _ member
  exact notMem_of_mem_pieces among

/-- The last component is that of the last piece that says something. -/
theorem components (ends : path.EndsIn before word after) :
    path.components = above before ++ [componentOf word] := by
  have silent : (after.filter fun piece => !isIdle piece) = [] :=
    List.filter_eq_nil_iff.mpr fun piece member => by simp [ends.idle piece member]
  have words : ((before ++ word :: after).filter fun piece => !isIdle piece) =
      (before.filter fun piece => !isIdle piece) ++ [word] := by
    rw [List.filter_append, List.filter_cons_of_pos (by simp [ends.told]), silent]
  have first : leading (before ++ word :: after) = leading (before ++ [['.', '.']]) := by
    cases before with
    | nil =>
      have told := ends.told
      simp only [List.nil_append]
      unfold leading
      split <;> simp_all [isIdle]
    | cons piece rest => exact leading_cons piece (by simp) (by simp)
  unfold Path.components
  rw [ends.pieces]
  dsimp only
  rw [words, first, List.map_append, ← List.append_assoc]
  rfl

/-- A last piece other than two dots is the file name. -/
theorem fileName (ends : path.EndsIn before word after) (named : word ≠ ['.', '.']) :
    path.fileName = some (String.ofList word) := by
  unfold Path.fileName
  rw [ends.components, List.getLast?_concat, componentOf, if_neg named]

theorem fileName_up (ends : path.EndsIn before ['.', '.'] after) : path.fileName = none := by
  unfold Path.fileName
  rw [ends.components, List.getLast?_concat]
  rfl

/-- Trimmed, a spelling ends with its last piece that says something. -/
theorem trimmed (ends : path.EndsIn before word after) :
    path.trimmed = ahead before ++ word := by
  have idle : ∀ piece ∈ after.reverse, isIdle piece = true := fun piece member =>
    ends.idle piece (List.mem_reverse.mp member)
  have whole := unpieces_append before word []
  unfold Path.trimmed
  rw [ends.pieces]
  cases before with
  | nil =>
    have held : heldBack after = [] := List.dropWhile_eq_nil_iff.mpr idle
    simpa [held, behind] using whole
  | cons piece rest =>
    have held : heldBack (rest ++ word :: after) = word :: rest.reverse := by
      rw [heldBack, List.reverse_append, List.reverse_cons, List.append_assoc,
        List.dropWhile_append_of_pos idle, List.singleton_append,
        List.dropWhile_cons_of_neg (by simp [ends.told])]
    simpa [held, behind] using whole

end EndsIn

/-- A path with a file name is spelled with this as the last piece that says something. -/
theorem exists_endsIn {path : Path} {name : String} (named : path.fileName = some name) :
    name.toList ≠ ['.', '.'] ∧ ∃ before after, path.EndsIn before name.toList after := by
  have last : path.components.getLast? = some (.name name) := by
    unfold fileName at named
    split at named
    · next text last => rw [last, Option.some.inj named]
    · cases named
  obtain ⟨words, word, split, spelled⟩ : ∃ words word,
      (pieces path.text.toList).filter (fun piece => !isIdle piece) = words ++ [word] ∧
        componentOf word = .name name := by
    unfold components at last
    dsimp only at last
    rcases List.eq_nil_or_concat' ((pieces path.text.toList).filter fun piece => !isIdle piece) with
      silent | ⟨words, word, split⟩
    · rw [silent, List.map_nil, List.append_nil] at last
      unfold leading at last
      split at last <;> cases last
    · rw [split, List.map_append, ← List.append_assoc, List.map_singleton,
        List.getLast?_concat] at last
      exact ⟨words, word, split, Option.some.inj last⟩
  obtain ⟨level, rfl⟩ : word ≠ ['.', '.'] ∧ word = name.toList := by
    unfold componentOf at spelled
    split at spelled
    · cases spelled
    · next level => exact ⟨level, by rw [← Component.name.inj spelled, String.toList_ofList]⟩
  obtain ⟨front, rest, whole, -, one⟩ := List.filter_eq_append_iff.mp split
  obtain ⟨between, after, tail, -, told, silent⟩ := List.filter_eq_cons_iff.mp one
  refine ⟨level, front ++ between, after, ?_, by simpa using told, fun piece member => ?_⟩
  · rw [whole, tail, List.append_assoc]
  · simpa using List.filter_eq_nil_iff.mp silent piece member

/-- A file name is not empty. -/
theorem fileName_ne_nil {path : Path} {name : String} (named : path.fileName = some name) :
    name.toList ≠ [] := by
  obtain ⟨-, before, after, ends⟩ := exists_endsIn named
  intro empty
  have told := ends.told
  rw [empty] at told
  cases told

/-! ### The extension of a file name -/

/-- A file name is cut before the last dot, if something is before that. -/
theorem cutName_append {stem extension : List Char} (filled : stem ≠ [])
    (plain : '.' ∉ extension) :
    cutName (String.ofList (stem ++ '.' :: extension)) =
      (String.ofList stem, some (String.ofList extension)) := by
  have passed : ∀ c ∈ extension.reverse, decide (c ≠ '.') = true := fun c member =>
    decide_eq_true fun dot => plain (List.mem_reverse.mp (dot ▸ member))
  unfold cutName
  simp only [String.toList_ofList, List.reverse_append, List.reverse_cons, List.append_assoc,
    List.singleton_append]
  rw [List.dropWhile_append_of_pos passed, List.takeWhile_append_of_pos passed]
  simp [filled]

/-- A file name without a dot after its first character is whole. -/
theorem cutName_of_short {name : String}
    (short : (name.toList.reverse.dropWhile (· ≠ '.')).drop 1 = []) :
    cutName name = (name, none) := by
  unfold cutName
  exact if_pos (by rw [short]; rfl)

/-- A file name is whole, or it is cut at a dot after which there is no other. -/
theorem cutName_cases (name : String) :
    cutName name = (name, none) ∨ ∃ stem extension, stem ≠ [] ∧ '.' ∉ extension ∧
      name.toList = stem ++ '.' :: extension ∧
      cutName name = (String.ofList stem, some (String.ofList extension)) := by
  have parts := List.takeWhile_append_dropWhile (p := (· ≠ '.')) (l := name.toList.reverse)
  have stops := List.head?_dropWhile_not (· ≠ '.') name.toList.reverse
  cases rest : name.toList.reverse.dropWhile (· ≠ '.') with
  | nil => exact .inl (cutName_of_short (by rw [rest]; rfl))
  | cons dot before =>
    rw [rest] at parts stops
    obtain rfl : dot = '.' := by simpa using stops
    cases before with
    | nil => exact .inl (cutName_of_short (by rw [rest]; rfl))
    | cons c before =>
      have filled : (c :: before).reverse ≠ [] := by simp
      have dotless : '.' ∉ (name.toList.reverse.takeWhile (· ≠ '.')).reverse := fun dot => by
        simpa using List.mem_takeWhile_imp (List.mem_reverse.mp dot)
      have forward : name.toList =
          (c :: before).reverse ++ '.' :: (name.toList.reverse.takeWhile (· ≠ '.')).reverse := by
        have whole := congrArg List.reverse parts
        rwa [List.reverse_reverse, List.reverse_append, List.reverse_cons, List.append_assoc,
          eq_comm] at whole
      have pair := cutName_append filled dotless
      rw [← forward, String.ofList_toList] at pair
      exact .inr ⟨_, _, filled, dotless, forward, pair⟩

/-- The stem of a file name is a beginning of it, and not empty. -/
theorem exists_rest {name : String} (filled : name.toList ≠ []) :
    (cutName name).1.toList ≠ [] ∧ ∃ rest, name.toList = (cutName name).1.toList ++ rest := by
  rcases cutName_cases name with whole | ⟨stem, extension, some, -, parts, pair⟩
  · rw [whole]
    exact ⟨filled, [], (List.append_nil _).symm⟩
  · rw [pair, String.toList_ofList]
    exact ⟨some, _, parts⟩

/-- A file name has an extension without dots exactly if it is its stem, a dot and this. -/
theorem cutName_snd_eq_some_iff {name extension : String} (filled : name.toList ≠ [])
    (dotless : '.' ∉ extension.toList) :
    (cutName name).2 = some extension ↔ name = (cutName name).1 ++ "." ++ extension := by
  constructor
  · intro cut
    rcases cutName_cases name with whole | ⟨stem, given, -, -, parts, pair⟩
    · rw [whole] at cut
      cases cut
    · rw [pair] at cut ⊢
      rw [← Option.some.inj cut, ← String.toList_inj, parts]
      simp
  · intro whole
    have pair := cutName_append (exists_rest filled).1 dotless
    have spelled : (cutName name).1.toList ++ '.' :: extension.toList = name.toList := by
      have letters := congrArg String.toList whole
      rw [String.toList_append, String.toList_append, List.append_assoc] at letters
      exact letters.symm
    rw [spelled, String.ofList_toList, String.ofList_toList, String.ofList_toList] at pair
    exact congrArg Prod.snd pair

/-- A name that goes on after a dot says something. -/
theorem isIdle_append {stem : List Char} (filled : stem ≠ []) (more : List Char) :
    isIdle (stem ++ '.' :: more) = false := by
  cases stem with
  | nil => exact absurd rfl filled
  | cons c rest => cases rest <;> simp [isIdle]

/-- The path without some characters at the end of its spelling. -/
def shortened (path : Path) (count : Nat) : Path :=
  ⟨String.ofList (path.text.toList.reverse.drop count).reverse⟩

namespace EndsIn

variable {path : Path} {before after : List (List Char)} {word : List Char} {new : String}

/-- With its extension set, a path ends in the stem of its file name and the extension. -/
theorem setExtension (ends : path.EndsIn before word after) (named : word ≠ ['.', '.'])
    (some : new.toList ≠ []) (plain : '/' ∉ new.toList) :
    (path.setExtension new).EndsIn before
      ((cutName (String.ofList word)).1.toList ++ '.' :: new.toList) [] := by
  have filled : (String.ofList word).toList ≠ [] := by
    rw [String.toList_ofList]
    rintro rfl
    cases ends.told
  obtain ⟨stem, rest, parts⟩ := exists_rest filled
  rw [String.toList_ofList] at parts
  generalize cut : (cutName (String.ofList word)).1 = kept at parts stem
  refine .of_text ?_ ?_ (isIdle_append stem _) (by simp)
  · have dropped : (String.ofList word).length - kept.length = rest.length := by
      rw [String.length_ofList, parts, List.length_append, String.length_toList]
      omega
    have given : new.isEmpty = false := by
      rw [Bool.eq_false_iff]
      intro empty
      exact some (by rw [String.isEmpty_iff.mp empty]; rfl)
    have shown : (Path.setExtension path new).text.toList =
        ((path.trimmed.reverse.drop rest.length).reverse ++ ['.']) ++ new.toList := by
      unfold Path.setExtension
      rw [ends.fileName named]
      simp only [cut, dropped, given]
      simp
    rw [shown, ends.trimmed, parts]
    simp [behind]
  · intro piece member
    rcases List.mem_append.mp member with here | last
    · exact ends.plain piece (List.mem_append_left _ here)
    · have whole := ends.plain word (List.mem_append_right _ List.mem_cons_self)
      rw [parts, List.mem_append, not_or] at whole
      rw [List.mem_singleton.mp last]
      simp [whole.1, plain]

/-- Without as many characters at the end as the extension has, a path ends in the stem with a part
of the extension, which is empty only if nothing follows the file name or the extension is empty. -/
theorem shortened {stem extension : List Char}
    (ends : path.EndsIn before (stem ++ '.' :: extension) after) (filled : stem ≠ []) :
    ∃ reach after', reach <+: extension ∧ (reach = [] ↔ after = [] ∨ extension = []) ∧
      (path.shortened extension.length).EndsIn before (stem ++ '.' :: reach) after' := by
  obtain ⟨after', idle, short⟩ :=
    exists_behind_take ends.idle ((behind after).length - extension.length)
  refine ⟨extension.take (behind after).length, after', List.take_prefix _ _, ?_,
    .of_text ?_ ?_ (isIdle_append filled _) idle⟩
  · rw [List.take_eq_nil_iff, List.length_eq_zero_iff, behind_eq_nil]
  · have whole : path.text.toList =
        (ahead before ++ stem ++ ['.']) ++ (extension ++ behind after) := by
      rw [ends.text]
      simp
    have kept : (ahead before ++ stem ++ ['.'] ++ (extension ++ behind after)).length -
        extension.length = (ahead before ++ stem ++ ['.']).length + (behind after).length := by
      simp only [List.length_append]
      omega
    rw [Path.shortened, String.toList_ofList, List.reverse_drop, List.reverse_reverse,
      List.length_reverse, whole, kept, List.take_length_add_append, List.take_append, short]
    simp
  · intro piece member
    rcases List.mem_append.mp member with here | last
    · exact ends.plain piece (List.mem_append_left _ here)
    · have plain := ends.plain _ (List.mem_append_right _ List.mem_cons_self)
      rw [List.mem_singleton.mp last]
      refine fun separator => plain ?_
      rw [List.mem_append, List.mem_cons] at separator ⊢
      exact separator.imp_right (.imp_right fun inside => List.mem_of_mem_take inside)

end EndsIn

/-- The file name has the stem of a single dot, and nothing follows it in the spelling. -/
def CutsUp (path : Path) : Prop := path.stem = some "." ∧ path.trimmed = path.text.toList

instance (path : Path) : Decidable path.CutsUp := inferInstanceAs (Decidable (_ ∧ _))

section WithExtension

variable {path : Path} {before after : List (List Char)} {new : String}

/-- A name that goes on after a dot is not two dots. -/
theorem append_ne_up {stem more : List Char} (filled : stem ≠ []) (some : more ≠ []) :
    stem ++ '.' :: more ≠ ['.', '.'] := by
  intro same
  have sizes := congrArg List.length same
  have first := List.length_pos_iff.mpr filled
  have second := List.length_pos_iff.mpr some
  rw [List.length_append, List.length_cons, List.length_cons, List.length_cons,
    List.length_nil] at sizes
  omega

/-- A path with a file name that is whole ends in this and the new extension. -/
theorem EndsIn.withExtension_of_whole {name : String} (ends : path.EndsIn before name.toList after)
    (level : name.toList ≠ ['.', '.']) (whole : cutName name = (name, none))
    (some : new.toList ≠ []) (plain : '/' ∉ new.toList) :
    ¬ path.CutsUp ∧
      (path.withExtension new).EndsIn before (name.toList ++ '.' :: new.toList) [] := by
  have named := ends.fileName level
  rw [String.ofList_toList] at named
  constructor
  · rintro ⟨stem, -⟩
    rw [Path.stem, named, Option.map_some, whole] at stem
    obtain rfl : name = "." := Option.some.inj stem
    exact absurd ends.told (by decide)
  · have uncut : path.extension = none := by
      rw [Path.extension, named, Option.bind_some, whole]
    have set := ends.setExtension level some plain
    rw [String.ofList_toList, whole] at set
    rwa [withExtension, uncut]

/-- A path with a file name that is cut ends in the stem and the new extension, or in two dots. -/
theorem EndsIn.withExtension_of_cut {stem extension : List Char}
    (ends : path.EndsIn before (stem ++ '.' :: extension) after)
    (level : stem ++ '.' :: extension ≠ ['.', '.']) (filled : stem ≠ []) (dotless : '.' ∉ extension)
    (some : new.toList ≠ []) (plain : '/' ∉ new.toList) :
    ∃ after', (path.withExtension new).EndsIn before
      (if path.CutsUp then ['.', '.'] else stem ++ '.' :: new.toList) after' := by
  have named := ends.fileName level
  have parts := cutName_append filled dotless
  obtain ⟨reach, after', part, empty, cut⟩ := ends.shortened filled
  have shown : path.withExtension new = (path.shortened extension.length).setExtension new := by
    rw [withExtension, Path.extension, named, Option.bind_some, parts]
    simp [Path.shortened]
  have cutsUp : path.CutsUp ↔ stem = ['.'] ∧ after = [] := by
    rw [CutsUp, Path.stem, named, Option.map_some, parts, ends.trimmed, ends.text,
      List.self_eq_append_right, behind_eq_nil, Option.some_inj, ← String.toList_inj,
      String.toList_ofList]
    rfl
  rw [shown]
  by_cases up : path.CutsUp
  · obtain ⟨rfl, last⟩ := cutsUp.mp up
    obtain rfl := empty.mpr (.inl last)
    rw [if_pos up, Path.setExtension, cut.fileName_up]
    exact ⟨after', cut⟩
  · have stays : stem ++ '.' :: reach ≠ ['.', '.'] := by
      intro two
      obtain rfl : reach = [] := by
        by_contra more
        exact append_ne_up filled more two
      obtain rfl : stem = ['.'] := List.append_cancel_right two
      rcases empty.mp rfl with last | rfl
      · exact up (cutsUp.mpr ⟨rfl, last⟩)
      · exact level rfl
    have set := cut.setExtension stays some plain
    rw [cutName_append filled fun dot => dotless (part.subset dot), String.toList_ofList] at set
    rw [if_neg up]
    exact ⟨[], set⟩

/-- **A path with another extension** has the components above it, and the stem of its file name
with this extension; or two dots, if that is how its spelling ends without the old one. -/
theorem components_withExtension {name : String} (named : path.fileName = some name) :
    ∃ outer, path.components = outer ++ [.name name] ∧
      ∀ new : String, new.toList ≠ [] → '/' ∉ new.toList →
        (path.withExtension new).components =
          outer ++ [if path.CutsUp then .up else .name ((cutName name).1 ++ "." ++ new)] := by
  obtain ⟨level, before, after, ends⟩ := exists_endsIn named
  have spelled {text : List Char} {path : Path} {after : List (List Char)}
      (ends : path.EndsIn before text after) (other : text ≠ ['.', '.']) :
      path.components = above before ++ [.name (String.ofList text)] := by
    rw [ends.components, componentOf, if_neg other]
  have filled := fileName_ne_nil named
  refine ⟨above before, by rw [spelled ends level, String.ofList_toList], ?_⟩
  intro new some plain
  rcases cutName_cases name with whole | ⟨stem, extension, start, dotless, parts, pair⟩
  · obtain ⟨flat, set⟩ := ends.withExtension_of_whole level whole some plain
    rw [if_neg flat, spelled set (append_ne_up filled some), whole]
    simp [String.append_assoc]
  · rw [parts] at ends level
    obtain ⟨after', set⟩ := ends.withExtension_of_cut level start dotless some plain
    rw [pair]
    by_cases up : path.CutsUp
    · rw [if_pos up] at set ⊢
      rw [set.components]
      rfl
    · rw [if_neg up] at set ⊢
      rw [spelled set (append_ne_up start some)]
      simp [String.append_assoc]

end WithExtension

end Path

end LiveReload
