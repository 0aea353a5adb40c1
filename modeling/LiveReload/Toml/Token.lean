/-
**Documents of settings: tokens.**

A document is cut into marks, texts, stretches of other characters, blanks, comments and line ends.
What a stretch means, a name or part of a number, is decided later.

* `tokens`: the tokens of a document, unless a text does not close or a character is not allowed.
-/
import LiveReload.Toml.Text

namespace LiveReload.Toml

/-- A piece of a document. -/
inductive Token
  | dot
  | equals
  | comma
  | openBracket
  | closeBracket
  | openBrace
  | closeBrace
  /-- Blanks inside a line. -/
  | blank (width : Nat)
  /-- What follows a number sign up to the end of the line. -/
  | comment
  | lineEnd
  /-- A text on one line. -/
  | text (text : String)
  /-- A text between three quotes on either side. -/
  | block (text : String)
  /-- Other characters. -/
  | stretch (text : String)
deriving DecidableEq, Repr

/-- The marks. -/
def mark? : Char → Option Token
  | '.' => some .dot
  | '=' => some .equals
  | ',' => some .comma
  | '[' => some .openBracket
  | ']' => some .closeBracket
  | '{' => some .openBrace
  | '}' => some .closeBrace
  | _ => none

/-- A character that goes on a stretch. -/
def isPlain (c : Char) : Bool :=
  (mark? c).isNone && !isBlank c && c ≠ '#' && c ≠ '\n' && c ≠ '\r' && c ≠ '"' && c ≠ '\''

/-- A character that goes on a comment. -/
def isRemark (c : Char) : Bool := !isControl c

/-- A text as a token. -/
def textToken (make : String → Token) (scanned : Scanned) : Option (Token × List Char) :=
  scanned.map fun (text, rest) => (make (String.ofList text), rest)

/-- The first token and what follows it. -/
def next? : List Char → Option (Token × List Char)
  | [] => none
  | '\n' :: rest => some (.lineEnd, rest)
  | '\r' :: '\n' :: rest => some (.lineEnd, rest)
  | '"' :: '"' :: '"' :: rest =>
    textToken .block (basicBlock (.count 0) (dropFirstLineEnd rest))
  | '\'' :: '\'' :: '\'' :: rest => textToken .block (literalBlock (dropFirstLineEnd rest))
  | '"' :: rest => textToken .text (basic 0 rest)
  | '\'' :: rest => textToken .text (literal rest)
  | '#' :: rest => some (.comment, rest.dropWhile isRemark)
  | c :: rest =>
    match mark? c with
    | some mark => some (mark, rest)
    | none =>
      if isBlank c then
        some (.blank ((rest.takeWhile isBlank).length + 1), rest.dropWhile isBlank)
      else if isControl c then none
      else some (.stretch (String.ofList (c :: rest.takeWhile isPlain)), rest.dropWhile isPlain)

/-- The tokens of a document with at most `most` of them. -/
def tokensWithin : Nat → List Char → Option (List Token)
  | _, [] => some []
  | 0, _ => none
  | most + 1, chars =>
    match next? chars with
    | none => none
    | some (token, rest) => (tokensWithin most rest).map fun tokens => token :: tokens

/-- The mark of the encoding that a document may start with. -/
def encodingMark : Char := Char.ofNat 65279

/-- The tokens of a document; each takes at least one character. -/
def tokens (document : String) : Option (List Token) :=
  let chars := document.toList
  let chars := if chars.head? = some encodingMark then chars.tail else chars
  tokensWithin chars.length chars

end LiveReload.Toml
