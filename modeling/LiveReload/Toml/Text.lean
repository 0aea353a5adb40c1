/-
**Documents of settings: quoted texts.**

Texts stand between single or double quotes, one of them on one line or three on several lines.
Double quotes allow escapes. Each function answers a text and what follows its closing quotes.
-/
import LiveReload.Text.Digits

namespace LiveReload.Toml

/-- A character that may stand nowhere but in line ends. -/
def isControl (c : Char) : Bool := (c.toNat < 32 && c ≠ '\t') || c.toNat = 127

/-- A blank inside a line. -/
def isBlank (c : Char) : Bool := c = ' ' || c = '\t'

/-- What a character stands for after a backslash. -/
def escaped? : Char → Option Char
  | 'b' => some (Char.ofNat 8)
  | 't' => some '\t'
  | 'n' => some '\n'
  | 'f' => some (Char.ofNat 12)
  | 'r' => some '\r'
  | 'e' => some (Char.ofNat 27)
  | '"' => some '"'
  | '\\' => some '\\'
  | _ => none

/-- How many hexadecimal digits a character asks for after a backslash. -/
def codeLength? : Char → Option Nat
  | 'x' => some 2
  | 'u' => some 4
  | 'U' => some 8
  | _ => none

/-- A text and what follows it. -/
abbrev Scanned := Option (List Char × List Char)

/-- A text with one more character before it. -/
def push (c : Char) (scanned : Scanned) : Scanned :=
  scanned.map fun (text, rest) => (c :: text, rest)

/-- A text between two single quotes. -/
def literal : List Char → Scanned
  | [] => none
  | c :: rest =>
    if c = '\'' then some ([], rest) else if isControl c then none else push c (literal rest)

/-- A text between two double quotes, with `skip` characters to be passed over first. -/
def basic (skip : Nat) : List Char → Scanned
  | [] => none
  | c :: rest =>
    match skip with
    | skip + 1 => basic skip rest
    | 0 =>
      if c = '"' then some ([], rest)
      else if isControl c then none
      else if c ≠ '\\' then push c (basic 0 rest)
      else match rest with
        | [] => none
        | mark :: after =>
          match escaped? mark, codeLength? mark with
          | some meant, _ => push meant (basic 1 (mark :: after))
          | none, some length =>
            match codePoint? (after.take length) with
            | some meant =>
              if after.length < length then none
              else push meant (basic (length + 1) (mark :: after))
            | none => none
          | none, none => none

/-- A line end, as one character or two, is what follows. -/
def startsLineEnd : List Char → Bool
  | '\n' :: _ => true
  | '\r' :: '\n' :: _ => true
  | _ => false

/-- The line holds nothing but blanks from here on. -/
def endsLine (chars : List Char) : Bool := startsLineEnd (chars.dropWhile isBlank)

/-- Three quotes close a text; one or two more quotes before them belong to it. Answers how many
quotes belong to the text, if the text closes here. -/
def closing? (quote : Char) (chars : List Char) : Option Nat :=
  let run := (chars.take 5).takeWhile (· = quote)
  if 3 ≤ run.length then some (run.length - 3) else none

/-- A character that may stand in a text of several lines, seen with what follows it. -/
def isAllowed (c : Char) (rest : List Char) : Bool :=
  !isControl c || c = '\n' || (c = '\r' && rest.head? = some '\n')

/-- A text between three single quotes on either side. -/
def literalBlock : List Char → Scanned
  | [] => none
  | c :: rest =>
    match closing? '\'' (c :: rest) with
    | some inside => some (List.replicate inside '\'', (c :: rest).drop (inside + 3))
    | none => if isAllowed c rest then push c (literalBlock rest) else none

/-- What is passed over in a text of several lines. -/
inductive Passing
  | count (characters : Nat)
  /-- Blanks and line ends up to the next other character. -/
  | blanks
deriving DecidableEq, Repr

/-- A text between three double quotes on either side, with some characters to be passed over
first. A backslash at the end of a line joins the line with the next that is not blank. -/
def basicBlock (passing : Passing) : List Char → Scanned
  | [] => none
  | c :: rest =>
    let read : Scanned :=
      match closing? '"' (c :: rest) with
      | some inside => some (List.replicate inside '"', (c :: rest).drop (inside + 3))
      | none =>
        if !isAllowed c rest then none
        else if c ≠ '\\' then push c (basicBlock (.count 0) rest)
        else match rest with
          | [] => none
          | mark :: after =>
            match escaped? mark, codeLength? mark with
            | some meant, _ => push meant (basicBlock (.count 1) (mark :: after))
            | none, some length =>
              match codePoint? (after.take length) with
              | some meant =>
                if after.length < length then none
                else push meant (basicBlock (.count (length + 1)) (mark :: after))
              | none => none
            | none, none =>
              if endsLine (mark :: after) then basicBlock .blanks (mark :: after) else none
    match passing with
    | .count (count + 1) => basicBlock (.count count) rest
    | .count 0 => read
    | .blanks =>
      if isBlank c || startsLineEnd (c :: rest) then basicBlock .blanks rest else read

/-- A text of several lines without a line end right after its opening quotes. -/
def dropFirstLineEnd : List Char → List Char
  | '\n' :: rest => rest
  | '\r' :: '\n' :: rest => rest
  | chars => chars

end LiveReload.Toml
