/-
**How a pattern is read.**

Marks in a pattern change how the rest of it is read: which letters are equal, what a line is,
whether blanks count.

* `Mode.changed?`: the mode after some marks;
* `Mode.skip`: what a mode does not look at;
* `Mode.run`: the characters of a kind at the start, blanks between them not counted.
-/
import LiveReload.Text.Blank

namespace LiveReload.Pattern

/-- How a pattern is read. -/
structure Mode where
  /-- Small and capital letters are equal. -/
  caseless : Bool := false
  /-- The marks for the ends of the text also stand for the ends of lines. -/
  byLine : Bool := false
  /-- Any character is one that ends a line too. -/
  acrossLines : Bool := false
  /-- A character is one of any script, and not one byte. -/
  anyScript : Bool := true
  /-- A carriage return ends lines too. -/
  returns : Bool := false
  /-- Blanks and comments are not part of the pattern. -/
  spaced : Bool := false
deriving DecidableEq, Repr

namespace Mode

/-- The mode with one thing on or off. Which of two parts is tried first changes nothing about
whether a text has one. -/
def set? (isOn : Bool) (mode : Mode) : Char → Option Mode
  | 'i' => some { mode with caseless := isOn }
  | 'm' => some { mode with byLine := isOn }
  | 's' => some { mode with acrossLines := isOn }
  | 'U' => some mode
  | 'u' => some { mode with anyScript := isOn }
  | 'R' => some { mode with returns := isOn }
  | 'x' => some { mode with spaced := isOn }
  | _ => none

/-- The mode after marks: what stands before the dash is on, what stands after it is off. None of
them comes twice, and something follows the dash. -/
def changed? (mode : Mode) (marks : List Char) : Option Mode :=
  if marks.Nodup && marks.getLast? ≠ some '-' then do
    let mode ← (marks.takeWhile (· ≠ '-')).foldlM (set? true) mode
    ((marks.dropWhile (· ≠ '-')).drop 1).foldlM (set? false) mode
  else none

/-- What follows blanks and comments. A comment goes from its mark to the end of the line. -/
def skipBlanks (inComment : Bool) : List Char → List Char
  | [] => []
  | c :: rest =>
    if inComment then skipBlanks (c ≠ '\n') rest
    else if Blank.isBlank c then skipBlanks false rest
    else if c = '#' then skipBlanks true rest
    else c :: rest

/-- What follows the characters that the mode does not look at. -/
def skip (mode : Mode) (chars : List Char) : List Char :=
  if mode.spaced then skipBlanks false chars else chars

theorem length_skipBlanks_le (inComment : Bool) (chars : List Char) :
    (skipBlanks inComment chars).length ≤ chars.length := by
  induction chars generalizing inComment with
  | nil => exact Nat.le_refl 0
  | cons c rest step =>
    unfold skipBlanks
    split
    · exact Nat.le_succ_of_le (step _)
    · split
      · exact Nat.le_succ_of_le (step _)
      · split
        · exact Nat.le_succ_of_le (step _)
        · exact Nat.le_refl _

theorem length_skip_le (mode : Mode) (chars : List Char) :
    (mode.skip chars).length ≤ chars.length := by
  unfold skip
  split
  · exact length_skipBlanks_le _ _
  · exact Nat.le_refl _

/-- The characters of a kind at the start and what follows them. What the mode does not look at is
skipped after each. -/
def run (mode : Mode) (wanted : Char → Bool) : List Char → List Char × List Char
  | [] => ([], [])
  | c :: rest =>
    if wanted c then
      let (taken, rest) := mode.run wanted (mode.skip rest)
      (c :: taken, rest)
    else ([], c :: rest)
termination_by chars => chars.length
decreasing_by exact Nat.lt_succ_of_le (mode.length_skip_le rest)

end Mode

end LiveReload.Pattern
