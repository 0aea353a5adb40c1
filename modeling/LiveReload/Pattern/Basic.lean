/-
**Patterns of texts.**

A pattern describes parts of texts. Whether a text has such a part is found out with sets of places:
from the places that are reached, a pattern leads to the places where its parts may end. A place is
a gap between two characters, or the start or the end of the text.

* `Pattern.reach`: the places that a pattern leads to;
* `Pattern.occursIn`: some part of a text is as described.
-/
import LiveReload.Pattern.CharSet

namespace LiveReload

/-- What a place must be like. -/
inductive Look
  /-- The start of the text. -/
  | start
  /-- The end of the text. -/
  | stop
  | lineStart
  | lineStop
  /-- The start of a line, where a carriage return ends lines too. -/
  | anyLineStart
  | anyLineStop
  /-- Between a character of a word and another one. -/
  | wordEdge
  | noWordEdge
  | wordStart
  | wordStop
  /-- No character of a word comes right before. -/
  | noWordBefore
  | noWordAfter
deriving DecidableEq, Repr

namespace Look

/-- There is a character, and it is one of a word. -/
def isWord (c : Option Char) : Bool := c.any CharSet.wordChars.contains

/-- A place between two characters is as wanted. -/
def holds (before after : Option Char) : Look → Bool
  | start => before.isNone
  | stop => after.isNone
  | lineStart => before.all (· = '\n')
  | lineStop => after.all (· = '\n')
  | anyLineStart => before.all fun c => c = '\n' || (c = '\r' && after ≠ some '\n')
  | anyLineStop => after.all fun c => c = '\r' || (c = '\n' && before ≠ some '\r')
  | wordEdge => isWord before != isWord after
  | noWordEdge => isWord before == isWord after
  | wordStart => !isWord before && isWord after
  | wordStop => isWord before && !isWord after
  | noWordBefore => !isWord before
  | noWordAfter => !isWord after

end Look

/-- A description of parts of texts. -/
inductive Pattern
  /-- The part without characters. -/
  | empty
  /-- The part without characters at some places. -/
  | look (wanted : Look)
  /-- One character of a set. -/
  | one (set : CharSet)
  /-- One part right after another. -/
  | seq (first second : Pattern)
  /-- Either of two. -/
  | either (first second : Pattern)
  /-- Several parts in a row, at least `least` and at most `most` of them if that is set. -/
  | repeated (part : Pattern) (least : Nat) (most : Option Nat)
  /-- What patterns can be written with, but not used with. -/
  | unavailable
deriving DecidableEq, Repr

/-- Which places of a text are reached, from its start to its end. -/
abbrev Places := List Bool

namespace Places

/-- The places of either list. -/
def join (a b : Places) : Places := List.zipWith (· || ·) a b

/-- Takes a step `times` times, which is done with once a step changes nothing. -/
def steps (step : Places → Places) : Nat → Places → Places
  | 0, places => places
  | times + 1, places =>
    let next := step places
    if next = places then places else steps step times next

/-- The characters around each place of a text. -/
def around (before : Option Char) : List Char → List (Option Char × Option Char)
  | [] => [(before, none)]
  | c :: rest => (before, some c) :: around (some c) rest

end Places

namespace Pattern

/-- The places that a pattern leads to. -/
def reach (text : List Char) : Pattern → Places → Places
  | empty, places => places
  | look wanted, places =>
    List.zipWith (fun reached (before, after) => reached && wanted.holds before after) places
      (Places.around none text)
  | one set, places =>
    false :: List.zipWith (fun reached c => reached && set.contains c) places text
  | seq first second, places => reach text second (reach text first places)
  | either first second, places => (reach text first places).join (reach text second places)
  | repeated part least most, places =>
    let further := (most.map (· - least)).getD (text.length + 1)
    Places.steps (fun places => places.join (reach text part places)) further
      (Places.steps (reach text part) least places)
  | unavailable, places => places.map fun _ => false

/-- Some part of a text is as described. -/
def occursIn (pattern : Pattern) (text : String) : Bool :=
  let chars := text.toList
  (reach chars pattern (List.replicate (chars.length + 1) true)).any id

/-- The pattern can be used. -/
def isAvailable : Pattern → Bool
  | seq first second => first.isAvailable && second.isAvailable
  | either first second => first.isAvailable && second.isAvailable
  | repeated part _ _ => part.isAvailable
  | unavailable => false
  | _ => true

/-- All parts that the pattern describes are without characters. -/
def isHollow : Pattern → Bool
  | one _ => false
  | seq first second => first.isHollow && second.isHollow
  | either first second => first.isHollow && second.isHollow
  | repeated part _ most => part.isHollow || most = some 0
  | _ => true

/-- A pattern several times in a row. Hollow ones say all there is to say the first time. -/
def times (part : Pattern) (least : Nat) (most : Option Nat) : Pattern :=
  let (least, most) :=
    if part.isHollow then (min least 1, some ((most.getD 1).min 1)) else (least, most)
  if most = some 0 then empty
  else if least = 1 && most = some 1 then part
  else repeated part least most

/-! ### The memory of a pattern -/

/-- The bytes that one state of a pattern takes. -/
def stateSize : Nat := 32

/-- How many states the characters of a range need, by the number of their bytes. -/
def rangeStates (range : Nat × Nat) : Nat :=
  [((0, 0x7F), 1), ((0x80, 0x7FF), 2), ((0x800, 0xFFFF), 12), ((0x10000, 0x10FFFF), 12)].foldl
    (fun states ((low, high), share) =>
      if range.1 ≤ high && low ≤ range.2 then states + share else states) 0

/-- How many bytes a set of characters needs. -/
def setMemory (set : CharSet) : Nat :=
  if set.isNarrow then 2 * stateSize + 8 * set.ranges.length
  else stateSize * (set.ranges.foldl (fun states range => states + rangeStates range) 2)

/-- About how many bytes a pattern needs. -/
def memory : Pattern → Nat
  | one set => setMemory set
  | seq first second => first.memory + second.memory
  | either first second => first.memory + second.memory + stateSize
  | repeated part least none => max least 1 * part.memory + stateSize
  | repeated part least (some most) =>
    least * part.memory + (most - least) * (part.memory + stateSize) + stateSize
  | _ => stateSize

/-- How many bytes a pattern may need. -/
def memoryLimit : Nat := 10 * 1024 * 1024

end Pattern

end LiveReload
