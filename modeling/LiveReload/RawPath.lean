/-
**Paths as bytes.**

The system has a path as bytes, which may be no text. It is cut at the bytes of the separator and of
the dot, and its parts are read only then: a part that is compared with texts is read strictly, so
that one which is no text is equal to none of them, and a part that is shown is read with
replacements.

* `Marks`: what cuts a spelling, over any alphabet;
* `RawPath.fileName`, `RawPath.stem`, `RawPath.extension`: parts of a path;
* `RawPath.nameText?`, `RawPath.extensionText?`: parts that are text;
* `RawPath.shownName?`, `RawPath.text`: what is shown for a file name and for a path.
-/
import LiveReload.Path
import LiveReload.Text.Utf8

namespace LiveReload

/-- The two marks that cut the spelling of a path. -/
structure Marks (α : Type) where
  separator : α
  dot : α

namespace Marks

/-- The marks of texts. -/
def text : Marks Char := ⟨'/', '.'⟩

/-- The marks of bytes. -/
def bytes : Marks UInt8 := ⟨'/'.toUInt8, '.'.toUInt8⟩

variable {α : Type} [DecidableEq α] (marks : Marks α)

/-- A piece says nothing when it is empty or a single dot. -/
def isIdle (piece : List α) : Bool := piece = [] || piece = [marks.dot]

/-- The pieces that say something. -/
def words (spelling : List α) : List (List α) :=
  (spelling.splitOn marks.separator).filter fun piece => !marks.isIdle piece

/-- What the first piece says before all others: a root, a leading dot, or nothing. -/
def leading : List (List α) → List (List α)
  | [] => []
  | first :: others =>
    if first = [marks.dot] ∨ first = [] ∧ others ≠ [] then [first] else []

/-- The components of a spelling, each by the piece that spells it. -/
def components (spelling : List α) : List (List α) :=
  marks.leading (spelling.splitOn marks.separator) ++ marks.words spelling

/-- The last piece that says something, unless it goes up. -/
def fileName (spelling : List α) : Option (List α) :=
  (marks.words spelling).getLast?.filter fun piece => piece ≠ [marks.dot, marks.dot]

/-- What stands before the last dot of a name. -/
def beforeDot (name : List α) : List α :=
  ((name.reverse.dropWhile (· ≠ marks.dot)).drop 1).reverse

/-- What stands after the last dot of a name. -/
def afterDot (name : List α) : List α := (name.reverse.takeWhile (· ≠ marks.dot)).reverse

/-- A name without its extension, which it has if something stands before its last dot. -/
def cut (name : List α) : List α :=
  if marks.beforeDot name = [] then name else marks.beforeDot name

/-- The extension of a name. -/
def extensionOf (name : List α) : Option (List α) :=
  if marks.beforeDot name = [] then none else some (marks.afterDot name)

/-- The file name without its extension. -/
def stem (spelling : List α) : Option (List α) := (marks.fileName spelling).map marks.cut

/-- What follows the last dot of the file name. -/
def extension (spelling : List α) : Option (List α) :=
  (marks.fileName spelling).bind marks.extensionOf

/-- A spelling seen from `base`: one that starts at the root stands alone. -/
def join (base spelling : List α) : List α :=
  if spelling.head? = some marks.separator then spelling
  else if base = [] ∨ base.getLast? = some marks.separator then base ++ spelling
  else base ++ marks.separator :: spelling

end Marks

/-- A path as the system has it, whose bytes may be no text. -/
structure RawPath where
  bytes : List UInt8
deriving DecidableEq, Repr

namespace RawPath

/-- A path that is text, as bytes. -/
def ofPath (path : Path) : RawPath := ⟨Utf8.encode path.text⟩

/-- The path that is shown for the bytes. -/
def text (path : RawPath) : Path := ⟨Utf8.decodeLossy path.bytes⟩

/-- The bytes of the last component, if it is a name. -/
def fileName (path : RawPath) : Option (List UInt8) := Marks.bytes.fileName path.bytes

/-- The bytes of the file name without its extension. -/
def stem (path : RawPath) : Option (List UInt8) := Marks.bytes.stem path.bytes

/-- The bytes of the extension. -/
def extension (path : RawPath) : Option (List UInt8) := Marks.bytes.extension path.bytes

/-- The file name, if it is text. -/
def nameText? (path : RawPath) : Option String := path.fileName.bind Utf8.decode?

/-- The extension, if it is text. -/
def extensionText? (path : RawPath) : Option String := path.extension.bind Utf8.decode?

/-- The text that is shown for the file name. -/
def shownName? (path : RawPath) : Option String := path.fileName.map Utf8.decodeLossy

/-- `path` seen from `base`. -/
def join (base path : RawPath) : RawPath := ⟨Marks.bytes.join base.bytes path.bytes⟩

/-- Every component of `base` starts `path`. -/
def startsWith (path base : RawPath) : Bool :=
  (Marks.bytes.components base.bytes).isPrefixOf (Marks.bytes.components path.bytes)

end RawPath

end LiveReload
