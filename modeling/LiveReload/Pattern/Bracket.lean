/-
**Patterns: sets in brackets.**

Brackets hold characters, ranges, sets that have names and further brackets. Two of the sets can be
combined by an operation; operations are done from left to right.

* `Mode.bracket?`: the set that brackets write, and what follows them.
-/
import LiveReload.Pattern.Escape

namespace LiveReload.Pattern

/-- A set, and how deep what it was written with goes. -/
structure SetPiece where
  set : CharSet
  depth : Nat
deriving DecidableEq, Repr

/-- What two sets can be combined by. -/
inductive SetOperation
  | inter
  | diff
  | symmDiff
deriving DecidableEq, Repr

/-- The set that an operation makes of two. -/
def SetOperation.apply : SetOperation → CharSet → CharSet → CharSet
  | inter => CharSet.inter
  | diff => CharSet.diff
  | symmDiff => CharSet.symmDiff

/-- What was read of a set whose brackets are not closed yet. -/
structure SetDraft where
  /-- The set holds what is not written. -/
  isNegated : Bool
  /-- What stands before the last operation. -/
  left : Option (SetPiece × SetOperation) := none
  /-- What was written since, the last one first. -/
  items : List SetPiece := []
deriving DecidableEq, Repr

namespace SetDraft

/-- The draft with one more set in it. -/
def add (draft : SetDraft) (item : SetPiece) : SetDraft :=
  { draft with items := item :: draft.items }

/-- What was written since the last operation. -/
def joined (draft : SetDraft) : SetPiece :=
  match draft.items with
  | [] => ⟨.empty, 0⟩
  | [item] => item
  | items =>
    ⟨items.foldr (fun item set => set.union item.set) .empty,
      1 + items.foldl (fun depth item => max depth item.depth) 0⟩

/-- The set as the mode sees it. -/
def seen (mode : Mode) (set : CharSet) : CharSet := if mode.caseless then set.caseless else set

/-- All that was written. -/
def combined (draft : SetDraft) (mode : Mode) : SetPiece :=
  let right := draft.joined
  match draft.left with
  | none => right
  | some (left, operation) =>
    ⟨operation.apply (seen mode left.set) (seen mode right.set), 1 + max left.depth right.depth⟩

/-- The draft with an operation after all that was written. -/
def operate (draft : SetDraft) (mode : Mode) (operation : SetOperation) : SetDraft :=
  { draft with left := some (draft.combined mode, operation), items := [] }

/-- A set or what is not in it. Where characters are bytes, there is no set of the others. -/
def turned? (mode : Mode) (isNegated : Bool) (set : CharSet) : Option CharSet :=
  if !isNegated then some (seen mode set)
  else if mode.anyScript then some (seen mode set).complement
  else none

/-- The set once its brackets are closed. -/
def close? (draft : SetDraft) (mode : Mode) : Option SetPiece :=
  let piece := draft.combined mode
  (turned? mode draft.isNegated piece.set).map fun set => ⟨set, piece.depth + 1⟩

end SetDraft

namespace Mode

/-- A character that a set can hold. Where characters are bytes, it takes one. -/
def holdable? (mode : Mode) (c : Char) : Option SetPiece :=
  if mode.anyScript || c.toNat < 128 then some ⟨.single c, 0⟩ else none

/-- One character of a set, or what stands for several. -/
def setSymbol? (mode : Mode) : List Char → Option (Symbol × List Char)
  | [] => none
  | '\\' :: rest => mode.escape? rest
  | c :: rest => (mode.char? c).map fun symbol => (symbol, rest)

/-- What stands for a set in brackets. -/
def symbolSet? (mode : Mode) : Symbol → Option SetPiece
  | .char c => mode.holdable? c
  | .set set => some ⟨set, 0⟩
  | .part _ => none

/-- What a dash is followed by. Blanks and the mark of a comment are looked past. -/
def afterDash (mode : Mode) (rest : List Char) : Option Char :=
  if mode.spaced then
    match rest.dropWhile Blank.isBlank with
    | '#' :: rest => (rest.dropWhile Blank.isBlank).head?
    | rest => rest.head?
  else rest.head?

/-- A character or range of a set, and what follows it. -/
def setItem? (mode : Mode) (chars : List Char) : Option (SetPiece × List Char) := do
  let (first, rest) ← mode.setSymbol? chars
  match mode.skip rest with
  | [] => none
  | '-' :: more =>
    if mode.afterDash more = some ']' || mode.afterDash more = some '-' then
      return (← mode.symbolSet? first, '-' :: more)
    else
      match first, ← mode.setSymbol? (mode.skip more) with
      | .char low, (.char high, rest) =>
        if (mode.holdable? low).isSome && (mode.holdable? high).isSome && low ≤ high then
          return (⟨.ofRanges [(low, high)], 0⟩, rest)
        else none
      | _, _ => none
  | rest => return (← mode.symbolSet? first, rest)

/-- A draft after its bracket was opened: dashes stand for themselves, and so does a bracket that
would close it at once. -/
def openSet? (mode : Mode) (chars : List Char) : Option (SetDraft × List Char) := do
  let (isNegated, rest) := match mode.skip chars with
    | '^' :: rest => (true, mode.skip rest)
    | rest => (false, rest)
  let (dashes, rest) := mode.run (· = '-') rest
  let dash ← mode.holdable? '-'
  let draft : SetDraft := { isNegated, items := dashes.map fun _ => dash }
  if !dashes.isEmpty then discard (mode.char? '-')
  match rest with
  | [] => none
  | ']' :: rest =>
    if dashes.isEmpty then
      discard (mode.char? ']')
      return (draft.add (← mode.holdable? ']'), mode.skip rest)
    else return (draft, ']' :: rest)
  | rest => return (draft, rest)

/-- A set by its name between colons, after the first of them, and what follows it. -/
def namedSet? (chars : List Char) : Option (Bool × CharSet × List Char) :=
  let (isNegated, chars) := match chars with
    | '^' :: rest => (true, rest)
    | rest => (false, rest)
  match chars.dropWhile (· ≠ ':') with
  | ':' :: ']' :: rest =>
    (CharSet.named? (String.ofList (chars.takeWhile (· ≠ ':')))).map fun set =>
      (isNegated, set, rest)
  | _ => none

/-- Goes on with a draft inside others, the innermost first, until all brackets are closed. -/
def closeSet? (mode : Mode) :
    Nat → SetDraft → List SetDraft → List Char → Option (SetPiece × List Char)
  | 0, _, _, _ => none
  | fuel + 1, draft, outer, chars =>
    let nested (rest : List Char) := do
      let (inner, rest) ← mode.openSet? rest
      mode.closeSet? fuel inner (draft :: outer) rest
    match mode.skip chars with
    | [] => none
    | '[' :: ':' :: rest =>
      match namedSet? rest with
      | some (isNegated, set, rest) => do
        if mode.caseless && mode.anyScript then none
        let set ← SetDraft.turned? mode isNegated set
        mode.closeSet? fuel (draft.add ⟨set, 0⟩) outer rest
      | none => nested (':' :: rest)
    | '[' :: rest => nested rest
    | ']' :: rest => do
      let piece ← draft.close? mode
      match outer with
      | [] => some (piece, rest)
      | parent :: outer => mode.closeSet? fuel (parent.add piece) outer rest
    | '&' :: '&' :: rest => mode.closeSet? fuel (draft.operate mode .inter) outer rest
    | '-' :: '-' :: rest => mode.closeSet? fuel (draft.operate mode .diff) outer rest
    | '~' :: '~' :: rest => mode.closeSet? fuel (draft.operate mode .symmDiff) outer rest
    | chars => do
      let (item, rest) ← mode.setItem? chars
      mode.closeSet? fuel (draft.add item) outer rest

/-- The set that brackets write, after the opening one, and what follows them. -/
def bracket? (mode : Mode) (chars : List Char) : Option (SetPiece × List Char) := do
  let (draft, rest) ← mode.openSet? chars
  mode.closeSet? (rest.length + 1) draft [] rest

end Mode

end LiveReload.Pattern
