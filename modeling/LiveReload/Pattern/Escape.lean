/-
**Patterns: what follows a backslash.**

After a backslash, marks stand for themselves, and some letters for characters, for sets of them or
for places. What is not described here is refused.

* `Mode.escape?`: what is written after a backslash, and what follows it.
-/
import LiveReload.Pattern.Basic
import LiveReload.Pattern.Mode
import LiveReload.Text.Digits

namespace LiveReload.Pattern

/-- What one sign of a pattern stands for. -/
inductive Symbol
  | char (c : Char)
  | set (set : CharSet)
  /-- A part of its own, which cannot be in a set. -/
  | part (pattern : Pattern)
deriving DecidableEq, Repr

namespace Mode

/-- A character that stands for itself. Which letters of all scripts are equal is not known. -/
def char? (mode : Mode) (c : Char) : Option Symbol :=
  if mode.caseless && mode.anyScript then none else some (.char c)

/-- So many hexadecimal digits, with what follows them. -/
def hexDigits? (mode : Mode) : Nat → List Char → Option (List Char × List Char)
  | 0, chars => some ([], chars)
  | _ + 1, [] => none
  | count + 1, c :: rest =>
    if (hexValue? c).isSome then
      (mode.hexDigits? count (mode.skip rest)).map fun (digits, rest) => (c :: digits, rest)
    else none

/-- A character by its code point, with two, four or eight digits or any number of them in braces.
Two digits stand for a byte where characters are bytes, and a byte above the first half is no
character. -/
def coded? (mode : Mode) (count : Nat) (chars : List Char) : Option (Symbol × List Char) :=
  match mode.skip chars with
  | '\x7b' :: rest =>
    match mode.run (fun c => (hexValue? c).isSome) (mode.skip rest) with
    | (digits, '\x7d' :: rest) => do
      if digits.isEmpty then none
      let symbol ← (codePoint? digits).bind mode.char?
      return (symbol, mode.skip rest)
    | _ => none
  | chars => do
    let (digits, rest) ← mode.hexDigits? count chars
    let c ← codePoint? digits
    if !mode.anyScript && count = 2 && c.toNat ≥ 128 then none
    return (← mode.char? c, rest)

/-- A set that a letter stands for, where characters are bytes. All others would hold bytes that
are no characters. -/
def lettered? (mode : Mode) (set : CharSet) (rest : List Char) : Option (Symbol × List Char) :=
  if mode.anyScript then none else some (.set set, rest)

/-- An edge of a word. Which letters of all scripts make words is not known. -/
def edge (mode : Mode) (edge : Look) : Symbol :=
  .part (if mode.anyScript then .unavailable else .look edge)

/-- The edges of words that have names. -/
def namedEdge? (name : List Char) : Option Look :=
  match String.ofList name with
  | "start" => some .wordStart
  | "end" => some .wordStop
  | "start-half" => some .noWordBefore
  | "end-half" => some .noWordAfter
  | _ => none

/-- A character of the name of an edge. -/
def isNameChar (c : Char) : Bool := c.isAlpha || c = '-'

/-- An edge of a word, whose kind may follow in braces. Braces that start otherwise count. -/
def edge? (mode : Mode) (chars : List Char) : Option (Symbol × List Char) :=
  match chars with
  | '\x7b' :: rest =>
    match mode.skip rest with
    | [] => none
    | c :: more =>
      if isNameChar c then
        match mode.run isNameChar (c :: more) with
        | (name, '\x7d' :: rest) => (namedEdge? name).map fun look => (mode.edge look, rest)
        | _ => none
      else some (mode.edge .wordEdge, chars)
  | _ => some (mode.edge .wordEdge, chars)

/-- What is written after a backslash, and what follows it. -/
def escape? (mode : Mode) : List Char → Option (Symbol × List Char)
  | [] => none
  | c :: rest =>
    let char (c : Char) := (mode.char? c).map fun symbol => (symbol, rest)
    match c with
    | 'x' => mode.coded? 2 rest
    | 'u' => mode.coded? 4 rest
    | 'U' => mode.coded? 8 rest
    | 'd' => mode.lettered? .digits rest
    | 's' => mode.lettered? .blanks rest
    | 'w' => mode.lettered? .wordChars rest
    | 'a' => char (Char.ofNat 7)
    | 'f' => char (Char.ofNat 12)
    | 't' => char '\t'
    | 'n' => char '\n'
    | 'r' => char '\r'
    | 'v' => char (Char.ofNat 11)
    | 'A' => some (.part (.look .start), rest)
    | 'z' => some (.part (.look .stop), rest)
    | 'b' => mode.edge? rest
    | 'B' => some (mode.edge .noWordEdge, rest)
    | '<' => some (mode.edge .wordStart, rest)
    | '>' => some (mode.edge .wordStop, rest)
    | c => if c.toNat < 128 && !c.isAlphanum then char c else none

end Mode

end LiveReload.Pattern
