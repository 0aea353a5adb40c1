/-
**Sets of characters.**

A set is a list of ranges of code points, in ascending order and with gaps between them, so that
equal sets are equal lists.

* `CharSet.union`, `CharSet.complement`, `CharSet.inter`, `CharSet.diff`: the algebra of sets;
* `CharSet.caseless`: the set with the small and capital forms of its letters;
* `CharSet.named?`: the sets that have names.
-/
namespace LiveReload

/-- A set of characters, as ranges of code points with both ends in them. -/
structure CharSet where
  ranges : List (Nat × Nat)
deriving DecidableEq, Repr

namespace CharSet

/-- No character. -/
def empty : CharSet := ⟨[]⟩

/-- The ranges with one more. -/
def insertRange (low high : Nat) : List (Nat × Nat) → List (Nat × Nat)
  | [] => [(low, high)]
  | (first, last) :: rest =>
    if high + 1 < first then (low, high) :: (first, last) :: rest
    else if last + 1 < low then (first, last) :: insertRange low high rest
    else insertRange (min first low) (max last high) rest

/-- The set with one more range. -/
def insert (set : CharSet) (low high : Char) : CharSet :=
  ⟨insertRange low.toNat high.toNat set.ranges⟩

/-- The characters of ranges. -/
def ofRanges (ranges : List (Char × Char)) : CharSet :=
  ranges.foldl (fun set (low, high) => set.insert low high) empty

/-- One character. -/
def single (c : Char) : CharSet := ofRanges [(c, c)]

/-- The character is in the set. -/
def contains (set : CharSet) (c : Char) : Bool :=
  set.ranges.any fun (low, high) => low ≤ c.toNat && c.toNat ≤ high

/-- The set has no character. -/
def isEmpty (set : CharSet) : Bool := set.ranges.isEmpty

/-- The characters of either set. -/
def union (a b : CharSet) : CharSet :=
  ⟨b.ranges.foldl (fun ranges (low, high) => insertRange low high ranges) a.ranges⟩

/-- The last code point. -/
def lastCode : Nat := 0x10FFFF

/-- The gaps of ranges from a code point on. -/
def gaps (start : Nat) : List (Nat × Nat) → List (Nat × Nat)
  | [] => if start ≤ lastCode then [(start, lastCode)] else []
  | (low, high) :: rest =>
    if start < low then (start, low - 1) :: gaps (high + 1) rest else gaps (high + 1) rest

/-- The characters that are not in the set. -/
def complement (set : CharSet) : CharSet := ⟨gaps 0 set.ranges⟩

/-- The characters of both sets. -/
def inter (a b : CharSet) : CharSet := (a.complement.union b.complement).complement

/-- The characters of the first set that are not in the second. -/
def diff (a b : CharSet) : CharSet := a.inter b.complement

/-- The characters of one set alone. -/
def symmDiff (a b : CharSet) : CharSet := (a.diff b).union (b.diff a)

/-- The part of ranges between two ends, moved to start at another place. -/
def moved (ranges : List (Nat × Nat)) (low high start : Nat) : List (Nat × Nat) :=
  (ranges.filter fun range => range.1 ≤ high && low ≤ range.2).map fun range =>
    (max range.1 low - low + start, min range.2 high - low + start)

/-- The set with the small and capital forms of its letters from a to z. -/
def caseless (set : CharSet) : CharSet :=
  let capitals := moved set.ranges 'a'.toNat 'z'.toNat 'A'.toNat
  let smalls := moved set.ranges 'A'.toNat 'Z'.toNat 'a'.toNat
  (set.union ⟨capitals⟩).union ⟨smalls⟩

/-- All characters of the set take one byte. -/
def isNarrow (set : CharSet) : Bool := set.ranges.all fun range => range.2 < 128

/-- The digits. -/
def digits : CharSet := ofRanges [('0', '9')]

/-- The blanks of one byte. -/
def blanks : CharSet := ofRanges [('\t', '\r'), (' ', ' ')]

/-- The characters of words of one byte each. -/
def wordChars : CharSet := ofRanges [('0', '9'), ('A', 'Z'), ('_', '_'), ('a', 'z')]

/-- The set that a name stands for. -/
def named? : String → Option CharSet
  | "alnum" => some (ofRanges [('0', '9'), ('A', 'Z'), ('a', 'z')])
  | "alpha" => some (ofRanges [('A', 'Z'), ('a', 'z')])
  | "ascii" => some (ofRanges [('\x00', '\x7F')])
  | "blank" => some (ofRanges [('\t', '\t'), (' ', ' ')])
  | "cntrl" => some (ofRanges [('\x00', '\x1F'), ('\x7F', '\x7F')])
  | "digit" => some digits
  | "graph" => some (ofRanges [('!', '~')])
  | "lower" => some (ofRanges [('a', 'z')])
  | "print" => some (ofRanges [(' ', '~')])
  | "punct" => some (ofRanges [('!', '/'), (':', '@'), ('[', '\x60'), ('\x7b', '~')])
  | "space" => some blanks
  | "upper" => some (ofRanges [('A', 'Z')])
  | "word" => some wordChars
  | "xdigit" => some (ofRanges [('0', '9'), ('A', 'F'), ('a', 'f')])
  | _ => none

end CharSet

end LiveReload
