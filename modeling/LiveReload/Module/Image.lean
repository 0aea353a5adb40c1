/-
**Images of shared libraries.**

An image starts with a header, which tells where its table of segments is. The loader looks at the
header first, then at the segments, and names the first thing that is wrong.

* `Image.flaw`: what is wrong with an image that is no library of a module.
-/
import LiveReload.Fault.Basic
import LiveReload.Memory.Bytes

namespace LiveReload.Image

/-- What a header holds at an offset, and what it is called if it does not. -/
structure Rule where
  offset : Nat
  allowed : List (List UInt8)
  flaw : String
deriving DecidableEq, Repr

/-- The header obeys the rule. -/
def Rule.holds (rule : Rule) (bytes : List UInt8) : Bool :=
  rule.allowed.any (·.isPrefixOf (bytes.drop rule.offset))

/-- The size of a header. -/
def headerSize : Nat := 64

/-- The bytes that every image starts with. -/
def magic : List UInt8 := [127, 69, 76, 70]

/-- Images of other machines are passed over like files that are not there. -/
def machineRule : Rule :=
  ⟨18, [[62, 0]], "cannot open shared object file: No such file or directory"⟩

/-- What tells that a file is an image for machines of this word size. -/
def familyRules : List Rule :=
  [⟨0, [magic], "invalid ELF header"⟩, ⟨4, [[2]], "wrong ELF class: ELFCLASS32"⟩]

/-- What the header says of its own format. -/
def formatRules : List Rule :=
  [⟨5, [[1]], "ELF file data encoding not little-endian"⟩,
    ⟨6, [[1]], "ELF file version ident does not match current one"⟩,
    ⟨7, [[0], [3]], "ELF file OS ABI invalid"⟩,
    ⟨7, [[0, 0], [3, 0], [3, 1], [3, 2], [3, 3]], "ELF file ABI version invalid"⟩,
    ⟨9, [List.replicate 7 0], "nonzero padding in e_ident"⟩]

/-- What the header says of the image. -/
def imageRules : List Rule :=
  [⟨20, [[1, 0, 0, 0]], "ELF file version does not match current one"⟩,
    machineRule,
    ⟨16, [[3, 0], [2, 0]], "only ET_DYN and ET_EXEC can be loaded"⟩,
    ⟨54, [[56, 0]], "ELF file's phentsize not the expected size"⟩]

/-- The rules in the order in which they are looked at: the machine comes early if the format is
not the expected one. -/
def rulesFor (bytes : List UInt8) : List Rule :=
  if formatRules.all fun rule => rule.holds bytes then familyRules ++ imageRules
  else familyRules ++ machineRule :: formatRules

/-- What is wrong with the header. -/
def headerFlaw? (bytes : List UInt8) : Option String :=
  if bytes.length < headerSize then some "file too short"
  else ((rulesFor bytes).find? fun rule => !rule.holds bytes).map Rule.flaw

/-- The number in `width` bytes at an offset. -/
def numberAt (bytes : List UInt8) (offset width : Nat) : Nat :=
  ofLittleEndian ((bytes.drop offset).take width)

/-- A part of an image and where it is mapped. -/
structure Segment where
  kind : Nat
  offset : Nat
  address : Nat
  /-- How much of the file it takes. -/
  extent : Nat
deriving DecidableEq, Repr

/-- How many bytes of the table a segment takes. -/
def entrySize : Nat := 56

/-- The segment whose entry starts the bytes. -/
def Segment.ofBytes (bytes : List UInt8) : Segment :=
  ⟨numberAt bytes 0 4, numberAt bytes 8 8, numberAt bytes 16 8, numberAt bytes 32 8⟩

/-- The first `count` segments of a table. -/
def segmentsOf : Nat → List UInt8 → List Segment
  | 0, _ => []
  | count + 1, bytes => .ofBytes bytes :: segmentsOf count (bytes.drop entrySize)

/-- How much of a file is read before its table is looked for. -/
def bufferSize : Nat := 832

/-- Offsets in files are words with a sign. -/
def offsetLimit : Nat := 2 ^ 63

/-- The segments of an image, or why they cannot be read. Places are counted in words, so that a
table may seem to end before it starts; nothing is found in such a table. -/
def segments (bytes : List UInt8) : Except String (List Segment) :=
  let start := numberAt bytes 32 8
  let count := numberAt bytes 56 2
  let ending := start + count * entrySize
  let held := segmentsOf count (bytes.drop start)
  if ending % 2 ^ 64 ≤ min bytes.length bufferSize then
    .ok (if offsetLimit ≤ start then [] else held)
  else if offsetLimit ≤ start || (0 < count && offsetLimit ≤ ending) then
    .error s!"cannot read file data: {systemText 22}"
  else if ending ≤ bytes.length || count = 0 then .ok held
  else .error "cannot read file data"

namespace Segment

/-- The segment is mapped. -/
def isMapped (segment : Segment) : Bool := segment.kind = 1

/-- The segment tells what a library needs and offers. -/
def isDynamic (segment : Segment) : Bool := segment.kind = 2

/-- The size of a page. -/
def pageSize : Nat := 4096

/-- The segment is at the same place of a page in the file and in memory. -/
def isAligned (segment : Segment) : Bool :=
  segment.address % pageSize = segment.offset % pageSize

end Segment

/-- The image is a library that says what it needs and offers. -/
def hasDynamic (segments : List Segment) : Bool :=
  let dynamic := segments.filter Segment.isDynamic
  dynamic.all (0 < ·.extent) && dynamic.getLast?.any (0 < ·.address)

/-- What is wrong with the segments of an image. -/
def segmentFlaw (executable : Bool) (segments : List Segment) : String :=
  let mapped := segments.filter Segment.isMapped
  if !mapped.all Segment.isAligned then "ELF load command address/offset not page-aligned"
  else if mapped.isEmpty then "object file has no loadable segments"
  else if executable then "cannot dynamically load executable"
  else if !hasDynamic segments then "object file has no dynamic section"
  else "failed to map segment from shared object"

/-- What is wrong with an image that is no library of a module. -/
def flaw (bytes : List UInt8) : String :=
  match headerFlaw? bytes with
  | some flaw => flaw
  | none =>
    match segments bytes with
    | .error flaw => flaw
    | .ok segments => segmentFlaw (numberAt bytes 16 2 = 2) segments

end LiveReload.Image
