/-
**Paths of bytes are cut as the texts that they are shown as, or that they spell.**

Where a path is cut into pieces, and where its file name is cut, stand bytes of ASCII, and these are
characters of their own in what is shown for bytes and in the bytes of a text. So the parts of a
path may be cut off its bytes and then be read, or be cut off the text, and a path that is text has
the same parts as its bytes.

* `Marks.reads_shown`, `Marks.reads_encodeChars`: both readings leave all marks in place;
* `Path.stem_eq`, `Path.extension_eq`: names of texts are cut by their marks;
* `RawPath.stem_text`: the stem that is shown for a path of bytes;
* `RawPath.nameText?_ofPath`, `RawPath.extensionText?_ofPath`, `RawPath.startsWith_ofPath`,
  `RawPath.ofPath_join`: a path that is text, as bytes.
-/
import LiveReload.Proofs.Files.Joined
import LiveReload.Proofs.Text.Decoding

namespace LiveReload

/-! ### Bytes and texts -/

namespace Marks

theorem ascii_marks : text.separator.toNat < 0x80 ∧ text.dot.toNat < 0x80 := by decide

/-- What is shown for bytes has their marks. -/
theorem reads_shown : Reads bytes text Utf8.shown := by
  have keeps {c : Char} (ascii : c.toNat < 0x80) : Keeps Utf8.shown c.toUInt8 c :=
    ⟨Utf8.shown_append ascii, fun _ apart => mt (Utf8.mem_of_shown ascii) apart⟩
  exact ⟨fun _ => Utf8.shown_eq_nil, keeps ascii_marks.1, keeps ascii_marks.2⟩

/-- The bytes of a text have its marks. -/
theorem reads_encodeChars : Reads text bytes Utf8.encodeChars := by
  have keeps {c : Char} (ascii : c.toNat < 0x80) : Keeps Utf8.encodeChars c c.toUInt8 :=
    ⟨Utf8.encodeChars_append_cons ascii, fun _ apart => mt (Utf8.mem_encodeChars ascii).mp apart⟩
  refine ⟨fun word => ?_, keeps ascii_marks.1, keeps ascii_marks.2⟩
  rw [← Utf8.shown_eq_nil, Utf8.shown_encodeChars]

end Marks

/-! ### Texts are cut by their marks -/

namespace Path

/-- A path starts with another one if the pieces that they are spelled with do. -/
theorem startsWith_iff {path base : Path} : path.startsWith base = true ↔
    Marks.text.components base.text.toList <+: Marks.text.components path.text.toList := by
  rw [startsWith, List.isPrefixOf_iff_prefix, components_of_marks, components_of_marks,
    List.prefix_map_iff_of_injective Component.ofPiece_injective]

theorem cutName_eq (name : List Char) :
    cutName (String.ofList name) = (String.ofList (Marks.text.cut name),
      (Marks.text.extensionOf name).map String.ofList) := by
  have empty : ((name.reverse.dropWhile (· ≠ '.')).drop 1).isEmpty = true ↔
      Marks.text.beforeDot name = [] := by
    rw [List.isEmpty_iff, Marks.beforeDot, List.reverse_eq_nil_iff]
    rfl
  unfold cutName
  rw [String.toList_ofList]
  by_cases whole : Marks.text.beforeDot name = []
  · rw [Marks.cut, Marks.extensionOf, if_pos whole, if_pos whole]
    exact if_pos (empty.mpr whole)
  · rw [Marks.cut, Marks.extensionOf, if_neg whole, if_neg whole]
    exact if_neg (mt empty.mp whole)

/-- The stem of a path can be read off its spelling. -/
theorem stem_eq (path : Path) :
    path.stem = (Marks.text.stem path.text.toList).map String.ofList := by
  rw [stem, fileName_eq, Marks.stem, Option.map_map, Option.map_map]
  congr 1
  funext name
  exact congrArg Prod.fst (cutName_eq name)

/-- The extension of a path can be read off its spelling. -/
theorem extension_eq (path : Path) :
    path.extension = (Marks.text.extension path.text.toList).map String.ofList := by
  rw [extension, fileName_eq, Marks.extension, Option.bind_map, Option.map_bind]
  congr 1
  funext name
  exact congrArg Prod.snd (cutName_eq name)

end Path

/-! ### Paths as bytes -/

namespace RawPath

/-- Every path that is text is the one that is shown for its bytes. -/
theorem text_ofPath (path : Path) : (ofPath path).text = path := by
  rw [text, ofPath, Utf8.decodeLossy_encode]

/-- **The stem of a path that is no text** is shown as the stem of the path that is shown. -/
theorem stem_text (path : RawPath) :
    path.text.stem = path.stem.map Utf8.decodeLossy := by
  rw [Path.stem_eq, show path.text.text.toList = Utf8.shown path.bytes from rfl,
    Marks.reads_shown.stem, stem, Option.map_map]
  exact congrArg (Option.map · _) (funext fun name => String.ofList_toList)

theorem bytes_ofPath (path : Path) : (ofPath path).bytes = Utf8.encodeChars path.text.toList := by
  rw [ofPath, Utf8.encodeChars, String.ofList_toList]

/-- A part of a path that is text, read strictly. -/
theorem bind_decode? (part : Option (List Char)) :
    (part.map Utf8.encodeChars).bind Utf8.decode? = part.map String.ofList := by
  cases part with
  | none => rfl
  | some word => exact Utf8.decode?_encode (String.ofList word)

/-- **The file name of a path that is text** is text. -/
theorem nameText?_ofPath (path : Path) : (ofPath path).nameText? = path.fileName := by
  rw [nameText?, fileName, bytes_ofPath, Marks.reads_encodeChars.fileName, bind_decode?,
    Path.fileName_eq]

/-- **The extension of a path that is text** is text. -/
theorem extensionText?_ofPath (path : Path) : (ofPath path).extensionText? = path.extension := by
  rw [extensionText?, extension, bytes_ofPath, Marks.reads_encodeChars.extension, bind_decode?,
    Path.extension_eq]

/-- Paths that are text start with each other as their bytes do. -/
theorem startsWith_ofPath (path base : Path) :
    (ofPath path).startsWith (ofPath base) = path.startsWith base := by
  rw [Bool.eq_iff_iff, Path.startsWith_iff, startsWith, List.isPrefixOf_iff_prefix, bytes_ofPath,
    bytes_ofPath, Marks.reads_encodeChars.components, Marks.reads_encodeChars.components,
    List.prefix_map_iff_of_injective Utf8.encodeChars_injective]

/-- A joined path has the file name that it was joined with. -/
theorem fileName_join (base : RawPath) {path : RawPath} {name : List UInt8}
    (named : path.fileName = some name) : (base.join path).fileName = some name :=
  Marks.bytes.fileName_join base.bytes named

end RawPath

end LiveReload
