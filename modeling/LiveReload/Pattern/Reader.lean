/-
**Reading patterns.**

A pattern is read sign by sign. What was read of the groups that are still open is kept, the
innermost first, each with the mode that holds again once its group is closed.

* `Pattern.ofText?`: the pattern that a text writes;
* `Pattern.isUsable`: it is not nested too deeply and does not need too much memory.
-/
import LiveReload.Pattern.Bracket
import LiveReload.Power
import LiveReload.Text.Letter

namespace LiveReload.Pattern

/-- A part of a pattern as it was written. -/
structure Piece where
  pattern : Pattern
  /-- How deep the part goes. -/
  depth : Nat := 0
  /-- The part describes something, and is not just a change of mode. -/
  isSolid : Bool := true
deriving DecidableEq, Repr

namespace Piece

/-- Pieces put together: none is the empty one, one stays as it is. -/
def gather (join : Pattern → Pattern → Pattern) : List Piece → Piece
  | [] => { pattern := .empty }
  | first :: rest =>
    rest.foldl (fun whole piece =>
      { pattern := join whole.pattern piece.pattern
        depth := max whole.depth (piece.depth + 1) })
      { first with depth := if rest.isEmpty then first.depth else first.depth + 1 }

end Piece

/-- What was read of a group that is not closed yet. -/
structure Draft where
  /-- What was written since the last bar, the last piece first. -/
  items : List Piece := []
  /-- What was written between bars before that, the last one first. -/
  branches : List Piece := []
  mode : Mode := {}
deriving DecidableEq, Repr

namespace Draft

/-- The draft with one more piece. -/
def add (draft : Draft) (piece : Piece) : Draft := { draft with items := piece :: draft.items }

/-- What was written since the last bar. -/
def branch (draft : Draft) : Piece := Piece.gather .seq draft.items.reverse

/-- The draft with a bar after all that was written. -/
def bar (draft : Draft) : Draft :=
  { draft with items := [], branches := draft.branch :: draft.branches }

/-- All that was written. -/
def whole (draft : Draft) : Piece :=
  Piece.gather .either (draft.branch :: draft.branches).reverse

/-- The draft with its last piece several times in a row. -/
def repeat? (draft : Draft) (least : Nat) (most : Option Nat) : Option Draft :=
  match draft.items with
  | [] => none
  | piece :: items =>
    if piece.isSolid then
      let pattern := piece.pattern.times least most
      some { draft with items := { pattern, depth := piece.depth + 1 } :: items }
    else none

end Draft

namespace Mode

/-- The piece that a symbol stands for. -/
def symbolPiece (mode : Mode) : Symbol → Piece
  | .char c =>
    let set := CharSet.single c
    { pattern := .one (if mode.caseless then set.caseless else set) }
  | .set set => { pattern := .one set }
  | .part pattern => { pattern }

/-- What a point stands for: all characters, or all that end no line. Where characters are bytes, a
point would stand for parts of characters. -/
def point? (mode : Mode) : Option Pattern :=
  if !mode.anyScript then none
  else if mode.acrossLines then some (.one CharSet.empty.complement)
  else if mode.returns then
    some (.one (CharSet.ofRanges [('\n', '\n'), ('\r', '\r')]).complement)
  else some (.one (CharSet.single '\n').complement)

/-- Where the text or a line starts. -/
def startPlace (mode : Mode) : Look :=
  if !mode.byLine then .start else if mode.returns then .anyLineStart else .lineStart

/-- Where the text or a line ends. -/
def stopPlace (mode : Mode) : Look :=
  if !mode.byLine then .stop else if mode.returns then .anyLineStop else .lineStop

/-- A count of repetitions, which fits a word of 32 bits, and what follows it. -/
def count? (mode : Mode) (chars : List Char) : Option (Nat × List Char) :=
  let (digits, rest) := mode.run Char.isDigit (chars.dropWhile Blank.isBlank)
  let count := digitsValue 10 (digits.filterMap hexValue?)
  if digits.isEmpty || count ≥ 2 ^ 32 then none else some (count, (mode.run Blank.isBlank rest).2)

/-- The least and the greatest count between braces, after the opening one, and what follows
them. -/
def counts? (mode : Mode) (chars : List Char) : Option ((Nat × Option Nat) × List Char) := do
  match ← mode.count? (mode.skip chars) with
  | (least, '\x7d' :: rest) => return ((least, some least), rest)
  | (least, ',' :: rest) =>
    match mode.skip rest with
    | '\x7d' :: rest => return ((least, none), rest)
    | rest =>
      match ← mode.count? rest with
      | (most, '\x7d' :: rest) => if least ≤ most then return ((least, some most), rest) else none
      | _ => none
  | _ => none

end Mode

/-- What follows a mark that asks for few repetitions. Whether a text has a part as described does
not depend on it. -/
def dropLazy : List Char → List Char
  | '?' :: rest => rest
  | chars => chars

/-- What an opening parenthesis starts. -/
inductive Opening
  /-- A group, with the mode inside it and its name if it has one. -/
  | group (mode : Mode) (name : Option (List Char))
  /-- Another mode for the rest of the group. -/
  | change (mode : Mode)
deriving DecidableEq, Repr

/-- A character of the name of a group. -/
def isGroupChar (c : Char) : Bool :=
  c = '_' || c = '.' || c = '[' || c = ']' || Letter.isLetter c || Letter.isNumeral c

/-- The name of a group up to its closing angle, and what follows it. -/
def groupName? (chars : List Char) : Option (List Char × List Char) :=
  match chars.takeWhile (· ≠ '>'), chars.dropWhile (· ≠ '>') with
  | first :: more, _ :: rest =>
    if (first = '_' || Letter.isLetter first) && more.all isGroupChar then
      some (first :: more, rest)
    else none
  | _, _ => none

/-- What an opening parenthesis starts, and what follows. -/
def opening? (mode : Mode) (chars : List Char) : Option (Opening × List Char) :=
  let named (rest : List Char) := (groupName? rest).map fun (name, rest) =>
    (Opening.group mode (some name), rest)
  match mode.skip chars with
  | '?' :: 'P' :: '<' :: rest => named rest
  | '?' :: '<' :: rest => named rest
  | '?' :: rest => do
    let marks := rest.takeWhile fun c => c ≠ ':' && c ≠ ')'
    let changed ← mode.changed? marks
    match rest.drop marks.length with
    | ':' :: rest => return (.group changed none, rest)
    | ')' :: rest => if marks.isEmpty then none else return (.change changed, rest)
    | _ => none
  | rest => some (.group mode none, rest)

/-- What was read of a pattern. -/
structure Reading where
  /-- The innermost open group. -/
  draft : Draft := {}
  /-- The groups around it, from the innermost to the whole pattern. -/
  outer : List Draft := []
  /-- The names of all groups. -/
  names : List (List Char) := []
deriving DecidableEq, Repr

namespace Reading

/-- The reading with one more piece in the innermost group. -/
def add (reading : Reading) (piece : Piece) : Reading :=
  { reading with draft := reading.draft.add piece }

/-- The reading with a group or a mode that starts. No two groups have the same name. -/
def start? (reading : Reading) : Opening → Option Reading
  | .change mode =>
    some { reading with
      draft := { reading.draft.add { pattern := .empty, isSolid := false } with mode } }
  | .group mode name =>
    if name.any reading.names.contains then none
    else some
      { draft := { mode }
        outer := reading.draft :: reading.outer
        names := name.toList ++ reading.names }

/-- The reading with the innermost group closed. -/
def close? (reading : Reading) : Option Reading :=
  match reading.outer with
  | [] => none
  | parent :: outer =>
    let inner := reading.draft.whole
    let group : Piece := { pattern := inner.pattern, depth := inner.depth + 1 }
    some { reading with draft := parent.add group, outer }

/-- The reading with the last piece several times in a row. -/
def repeat? (reading : Reading) (least : Nat) (most : Option Nat) : Option Reading :=
  (reading.draft.repeat? least most).map fun draft => { reading with draft }

/-- The reading after one more sign, and what follows that sign. -/
def step? (reading : Reading) (c : Char) (rest : List Char) : Option (Reading × List Char) :=
  let mode := reading.draft.mode
  match c with
  | '(' => do
    let (opening, rest) ← opening? mode rest
    return (← reading.start? opening, rest)
  | ')' => reading.close?.map fun reading => (reading, rest)
  | '|' => some ({ reading with draft := reading.draft.bar }, rest)
  | '[' => do
    let (piece, rest) ← mode.bracket? rest
    return (reading.add { pattern := .one piece.set, depth := piece.depth }, rest)
  | '?' => (reading.repeat? 0 (some 1)).map fun reading => (reading, dropLazy rest)
  | '*' => (reading.repeat? 0 none).map fun reading => (reading, dropLazy rest)
  | '+' => (reading.repeat? 1 none).map fun reading => (reading, dropLazy rest)
  | '\x7b' => do
    let ((least, most), rest) ← mode.counts? rest
    return (← reading.repeat? least most, dropLazy (mode.skip rest))
  | '\\' => do
    let (symbol, rest) ← mode.escape? rest
    return (reading.add (mode.symbolPiece symbol), rest)
  | '.' => mode.point?.map fun pattern => (reading.add { pattern }, rest)
  | '^' => some (reading.add { pattern := .look mode.startPlace }, rest)
  | '$' => some (reading.add { pattern := .look mode.stopPlace }, rest)
  | c => (mode.char? c).map fun symbol => (reading.add (mode.symbolPiece symbol), rest)

/-- The whole pattern once all signs are read. -/
def finish? : Nat → Reading → List Char → Option Piece
  | 0, _, _ => none
  | fuel + 1, reading, chars =>
    match reading.draft.mode.skip chars with
    | [] => if reading.outer.isEmpty then some reading.draft.whole else none
    | c :: rest =>
      match reading.step? c rest with
      | none => none
      | some (reading, rest) => finish? fuel reading rest

end Reading

/-- How deep a pattern may be nested. -/
def depthLimit : Nat := 250

/-- The pattern can be used as it was written. -/
def isUsable (piece : Piece) : Bool :=
  piece.depth ≤ depthLimit && piece.pattern.isAvailable && piece.pattern.memory ≤ memoryLimit

/-- The pattern that a text writes. Every sign takes a character, so the reading ends. -/
def ofText? (text : String) : Option Pattern :=
  let chars := text.toList
  ((Reading.finish? (chars.length + 1) {} chars).filter isUsable).map Piece.pattern

end LiveReload.Pattern
