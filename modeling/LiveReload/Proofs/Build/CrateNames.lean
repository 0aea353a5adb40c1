/-
**Names of crates are valid, whatever the input is called.**

The name of a crate is made of the stem of its input: each character that is no letter or digit of
ASCII becomes an underscore, and one more is put in front where the stem cannot begin a name. All
else follows from these two cases (`crateNameOf_cases`).

* `CommandLine.IsCrateName`: the grammar of names;
* `CommandLine.isCrateName_crateNameOf`: a name is in the grammar;
* `CommandLine.crateNameOf_eq_self_iff`: which stems are their own names;
* `CommandLine.length_crateNameOf`: how long a name is;
* `CommandLine.crateName_valid`: the same for inputs, also for those that are called by no text.
-/
import LiveReload.Build.CommandLine
import LiveReload.Proofs.Files.RawPaths

namespace LiveReload

namespace CommandLine

/-! ### The grammar of names -/

/-- A digit, `[0-9]`. -/
def IsDigit (c : Char) : Prop := '0' ≤ c ∧ c ≤ '9'

/-- What a name may begin with, `[A-Za-z_]`. -/
def CanBegin (c : Char) : Prop := ('A' ≤ c ∧ c ≤ 'Z') ∨ ('a' ≤ c ∧ c ≤ 'z') ∨ c = '_'

/-- What may follow in a name, `[A-Za-z0-9_]`. -/
def CanFollow (c : Char) : Prop := CanBegin c ∨ IsDigit c

instance (c : Char) : Decidable (IsDigit c) := inferInstanceAs (Decidable (_ ∧ _))

instance (c : Char) : Decidable (CanBegin c) := inferInstanceAs (Decidable (_ ∨ _))

instance (c : Char) : Decidable (CanFollow c) := inferInstanceAs (Decidable (_ ∨ _))

/-- The grammar of names, `[A-Za-z_][A-Za-z0-9_]*`. -/
def IsCrateName (name : String) : Prop :=
  ∃ first rest, name.toList = first :: rest ∧ CanBegin first ∧ ∀ c ∈ rest, CanFollow c

/-- A stem that cannot be begun with: it is empty or starts with a digit. -/
def NeedsStart (stem : String) : Prop :=
  stem = "" ∨ ∃ digit rest, stem.toList = digit :: rest ∧ IsDigit digit

theorem isDigit_iff (c : Char) : c.isDigit = true ↔ IsDigit c := by
  unfold Char.isDigit IsDigit
  rw [Bool.and_eq_true, decide_eq_true_eq, decide_eq_true_eq]
  rfl

/-- The characters of a name by their numbers. -/
theorem isDigit_iff_toNat (c : Char) : IsDigit c ↔ 48 ≤ c.toNat ∧ c.toNat ≤ 57 := Iff.rfl

theorem canBegin_iff_toNat (c : Char) :
    CanBegin c ↔ (65 ≤ c.toNat ∧ c.toNat ≤ 90) ∨ (97 ≤ c.toNat ∧ c.toNat ≤ 122) ∨
      c.toNat = 95 := by
  rw [CanBegin, ← Char.toNat_inj]
  rfl

theorem not_isDigit_of_canBegin {c : Char} (begins : CanBegin c) : ¬ IsDigit c := by
  rw [canBegin_iff_toNat] at begins
  rw [isDigit_iff_toNat]
  omega

theorem canBegin_underscore : CanBegin '_' := .inr (.inr rfl)

/-- Letters and digits are what a name consists of, but for the underscore. -/
theorem isNameChar_iff (c : Char) : isNameChar c = true ↔ CanFollow c ∧ c ≠ '_' := by
  rw [CanFollow, canBegin_iff_toNat, isDigit_iff_toNat, Ne, ← Char.toNat_inj]
  unfold isNameChar Char.isAlphanum Char.isAlpha Char.isUpper Char.isLower
  simp only [Bool.or_eq_true, Bool.and_eq_true, decide_eq_true_eq, isDigit_iff, isDigit_iff_toNat]
  show ((65 ≤ c.toNat ∧ c.toNat ≤ 90) ∨ (97 ≤ c.toNat ∧ c.toNat ≤ 122)) ∨ _ ↔
    (_ ∨ _) ∧ ¬ c.toNat = 95
  omega

/-! ### Stems -/

/-- One character of a stem as a character of a name. -/
def nameChar (c : Char) : Char := if isNameChar c then c else '_'

theorem nameChars_eq (stem : String) : nameChars stem = stem.toList.map nameChar := rfl

theorem canFollow_nameChar (c : Char) : CanFollow (nameChar c) := by
  unfold nameChar
  split
  · next named => exact ((isNameChar_iff c).mp named).1
  · exact .inl canBegin_underscore

theorem nameChar_of_canFollow {c : Char} (follows : CanFollow c) : nameChar c = c := by
  unfold nameChar
  split
  · rfl
  · next other =>
    by_contra apart
    exact other ((isNameChar_iff c).mpr ⟨follows, Ne.symm apart⟩)

theorem isDigit_nameChar (c : Char) : IsDigit (nameChar c) ↔ IsDigit c := by
  constructor
  · intro digit
    unfold nameChar at digit
    split at digit
    · exact digit
    · exact absurd digit (not_isDigit_of_canBegin canBegin_underscore)
  · intro digit
    rwa [nameChar_of_canFollow (.inr digit)]

/-- A name is the stem with each character as one of a name, after one more if the stem cannot be
begun with. -/
theorem crateNameOf_cases (stem : String) :
    NeedsStart stem ∧ (crateNameOf stem).toList = '_' :: nameChars stem ∨
      ¬ NeedsStart stem ∧ (crateNameOf stem).toList = nameChars stem := by
  unfold crateNameOf NeedsStart
  rw [nameChars_eq, ← String.toList_inj]
  cases shape : stem.toList with
  | nil => exact .inl ⟨.inl rfl, rfl⟩
  | cons first rest =>
    rw [List.map_cons]
    dsimp only
    by_cases digit : IsDigit first
    · have starts : (nameChar first).isDigit = true :=
        (isDigit_iff _).mpr ((isDigit_nameChar first).mpr digit)
      rw [if_pos starts]
      exact .inl ⟨.inr ⟨first, rest, rfl, digit⟩, String.toList_ofList⟩
    · have starts : ¬ (nameChar first).isDigit = true :=
        fun told => digit ((isDigit_nameChar first).mp ((isDigit_iff _).mp told))
      rw [if_neg starts]
      refine .inr ⟨?_, String.toList_ofList⟩
      rintro (empty | ⟨d, more, same, told⟩)
      · cases empty
      · obtain ⟨rfl, rfl⟩ := List.cons.inj same
        exact digit told

theorem needsStart_of_isCrateName {name : String} (valid : IsCrateName name) :
    ¬ NeedsStart name := by
  obtain ⟨first, rest, shape, begins, -⟩ := valid
  rintro (rfl | ⟨digit, more, same, told⟩)
  · cases shape
  · obtain ⟨rfl, rfl⟩ := List.cons.inj (shape.symm.trans same)
    exact not_isDigit_of_canBegin begins told

/-- **The name that is made of a stem is valid.** -/
theorem isCrateName_crateNameOf (stem : String) : IsCrateName (crateNameOf stem) := by
  have follow : ∀ c ∈ nameChars stem, CanFollow c := by
    intro c member
    rw [nameChars_eq] at member
    obtain ⟨d, -, rfl⟩ := List.mem_map.mp member
    exact canFollow_nameChar d
  rcases crateNameOf_cases stem with ⟨-, name⟩ | ⟨starts, name⟩
  · exact ⟨'_', nameChars stem, name, canBegin_underscore, follow⟩
  · cases shape : stem.toList with
    | nil => exact absurd (.inl (String.toList_inj.mp shape)) starts
    | cons first rest =>
      rw [nameChars_eq, shape, List.map_cons] at name
      rw [nameChars_eq, shape] at follow
      obtain ⟨leads, others⟩ := List.forall_mem_cons.mp follow
      refine ⟨_, _, name, leads.resolve_right fun digit => starts (.inr ?_), others⟩
      exact ⟨first, rest, shape, (isDigit_nameChar first).mp digit⟩

/-- **A stem is its own name exactly if it is valid.** -/
theorem crateNameOf_eq_self_iff (stem : String) : crateNameOf stem = stem ↔ IsCrateName stem := by
  constructor
  · intro same
    exact same ▸ isCrateName_crateNameOf stem
  · intro valid
    have same : nameChars stem = stem.toList := by
      obtain ⟨first, rest, shape, begins, follow⟩ := valid
      rw [nameChars_eq, shape, List.map_cons, nameChar_of_canFollow (.inl begins),
        List.map_congr_left fun c member => nameChar_of_canFollow (follow c member), List.map_id']
    rcases crateNameOf_cases stem with ⟨starts, -⟩ | ⟨-, name⟩
    · exact absurd starts (needsStart_of_isCrateName valid)
    · exact String.toList_inj.mp (name.trans same)

/-- A name is as long as the stem, or longer by the one character that it is begun with. -/
theorem length_crateNameOf (stem : String) :
    NeedsStart stem ∧ (crateNameOf stem).length = stem.length + 1 ∨
      ¬ NeedsStart stem ∧ (crateNameOf stem).length = stem.length := by
  have chars : (nameChars stem).length = stem.length := by
    rw [nameChars_eq, List.length_map, String.length_toList]
  rw [← String.length_toList (s := crateNameOf stem)]
  rcases crateNameOf_cases stem with ⟨starts, name⟩ | ⟨starts, name⟩
  · exact .inl ⟨starts, by rw [name, List.length_cons, chars]⟩
  · exact .inr ⟨starts, by rw [name, chars]⟩

/-! ### Inputs -/

theorem not_mem_of_isCrateName {name : String} (valid : IsCrateName name) {mark : Char}
    (other : ¬ CanFollow mark) : mark ∉ name.toList := by
  obtain ⟨first, rest, shape, begins, follow⟩ := valid
  rw [shape, List.mem_cons]
  rintro (rfl | later)
  · exact other (.inl begins)
  · exact other (follow mark later)

/-- A file that is called by a valid name has it as its stem. -/
theorem stem_of_isCrateName {name : String} (valid : IsCrateName name) :
    (Path.mk (name ++ ".rs")).stem = some name := by
  have filled : name.toList ≠ [] := by
    obtain ⟨first, rest, shape, -⟩ := valid
    rw [shape]
    exact List.cons_ne_nil first rest
  have text : (name ++ ".rs").toList = name.toList ++ '.' :: ['r', 's'] := String.toList_append
  have plain : '/' ∉ name.toList ++ '.' :: ['r', 's'] := by
    rw [List.mem_append, not_or]
    exact ⟨not_mem_of_isCrateName valid (by decide), by decide⟩
  have words : (Path.mk (name ++ ".rs")).words = [] ++ [name.toList ++ '.' :: ['r', 's']] := by
    rw [Path.words, text, Path.wordsOf_of_plain plain, Path.isIdle_append filled]
    rfl
  have level : name.toList ++ '.' :: ['r', 's'] ≠ ['.', '.'] := by
    intro up
    have length := congrArg List.length up
    rw [List.length_append] at length
    exact absurd length (by simp)
  rw [Path.stem, Path.fileName_of_words words level, Option.map_some,
    Path.cutName_append filled (by decide), String.ofList_toList]

end CommandLine

theorem RawPath.getD_stem (input : RawPath) :
    Utf8.decodeLossy (input.stem.getD []) = input.text.stem.getD "" := by
  rw [stem_text]
  cases input.stem with
  | none => exact String.toList_inj.mp Utf8.shown_nil
  | some stem => rfl

/-- The name of the crate of an input that is text, by its stem. -/
theorem CommandLine.crateName_eq (input : Path) :
    crateName input = crateNameOf (input.stem.getD "") := by
  rw [crateName, RawPath.crateName, RawPath.getD_stem, RawPath.text_ofPath]

/-- **Names of crates are valid.** The name of every input is in the grammar of names. It is the
stem itself exactly if that is in the grammar, and it is as long as the stem, or longer by one
character exactly if the stem is empty, as it is for an input without a file name, or starts with a
digit. An input whose stem is a name that was made before, as there is for every name, has this name
again. Where the path is shown for bytes, which may be no text, the stem is what is shown for the
stem of the bytes, and the name is made of this. -/
theorem CommandLine.crateName_valid (input : Path) :
    let stem := input.stem.getD ""
    let name := crateName input
    IsCrateName name ∧
      (name = stem ↔ IsCrateName stem) ∧
      (name.length = stem.length ∨ name.length = stem.length + 1) ∧
      (name.length = stem.length + 1 ↔ NeedsStart stem) ∧
      (Path.mk (name ++ ".rs")).stem = some name ∧
      (∀ again : Path, again.stem = some name → crateName again = name) ∧
      (RawPath.ofPath input).text = input ∧
      ∀ raw : RawPath, raw.text = input →
        Utf8.decodeLossy (raw.stem.getD []) = stem ∧ raw.crateName = name := by
  intro stem name
  have made : name = crateNameOf stem := crateName_eq input
  have valid : IsCrateName name := made ▸ isCrateName_crateNameOf stem
  rw [made] at valid ⊢
  refine ⟨valid, crateNameOf_eq_self_iff stem, ?_, ?_, stem_of_isCrateName valid, ?_,
    RawPath.text_ofPath input, ?_⟩
  · exact (length_crateNameOf stem).symm.imp And.right And.right
  · rcases length_crateNameOf stem with ⟨starts, longer⟩ | ⟨starts, same⟩
    · exact iff_of_true longer starts
    · exact iff_of_false (fun longer => Nat.succ_ne_self _ (longer.symm.trans same)) starts
  · intro again same
    rw [crateName_eq, same, Option.getD_some]
    exact (crateNameOf_eq_self_iff _).mpr valid
  · rintro raw rfl
    exact ⟨raw.getD_stem, congrArg crateNameOf raw.getD_stem⟩

/-- A file name that is no text, has two dots and starts with a digit, and a file that is called by
its name. -/
theorem CommandLine.crateName_valid_unreadable :
    let raw : RawPath := ⟨[0x73, 0x2F, 0x33, 0xFF, 0x2E, 0xC3, 0xA9, 0x2E, 0x72, 0x73]⟩
    let input : Path := ⟨"s/3\uFFFD.é.rs"⟩
    let again : Path := ⟨"lib/_3___.c"⟩
    raw.text = input ∧ again.stem = some (crateName input) ∧
      IsCrateName (crateName input) ∧ crateName input = "_3___" ∧ crateName again = "_3___" ∧
      raw.stem = some [0x33, 0xFF, 0x2E, 0xC3, 0xA9] ∧ raw.crateName = "_3___" := by
  intro raw input again
  have shown : raw.text = input := by decide +kernel
  have name : crateName input = "_3___" := by decide
  have called : again.stem = some (crateName input) := by rw [name]; decide
  have cut : raw.stem = some [0x33, 0xFF, 0x2E, 0xC3, 0xA9] := by decide
  obtain ⟨valid, -, -, -, -, kept, -, read⟩ := crateName_valid input
  have same : crateName again = "_3___" := (kept again called).trans name
  exact ⟨shown, called, valid, name, same, cut, (read raw shown).2.trans name⟩

/-- Inputs with other marks, with a digit in front, without a file name and with a dot in front. -/
example :
    [⟨"src/my-app.rs"⟩, ⟨"3d.rs"⟩, ⟨".."⟩, ⟨".größe.tar.rs"⟩].map CommandLine.crateName =
      ["my_app", "_3d", "_", "_gr__e_tar"] := by
  decide

end LiveReload
