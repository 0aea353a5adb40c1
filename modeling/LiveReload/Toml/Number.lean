/-
**Documents of settings: numbers.**

Whether characters write a number is told by their shape: the places of digits, underscores, dots
and signs. Whether the number can be held is another matter, and only asked when it is used.

* `number?`: the number that characters write.
-/
import LiveReload.Power
import LiveReload.Toml.Moment
import LiveReload.Toml.Value

namespace LiveReload.Toml

/-- A sign, if there is one, and what follows it. -/
def signed : List Char → List Char × List Char
  | '-' :: rest => (['-'], rest)
  | '+' :: rest => (['+'], rest)
  | chars => ([], chars)

/-- The characters without the underscores between them. Each underscore has a digit on either
side; `after` tells whether one came right before. -/
def joined? (isDigit : Char → Bool) (after : Bool) : List Char → Option (List Char)
  | [] => some []
  | ['_'] => none
  | '_' :: c :: rest =>
    if after && isDigit c then (joined? isDigit true rest).map fun joined => c :: joined else none
  | c :: rest => (joined? isDigit (isDigit c) rest).map fun joined => c :: joined

/-- The digit of the greatest base. -/
def isHexDigit (c : Char) : Bool := (hexValue? c).isSome

/-- The number that digits of a base write; there is at least one. -/
def naturalIn? (base : Nat) (chars : List Char) : Option Nat :=
  match chars.mapM hexValue? with
  | none => none
  | some digits =>
    if !digits.isEmpty && digits.all (· < base) then some (digitsValue base digits) else none

/-- A number with its sign. -/
def withSign (sign : List Char) (value : Nat) : Int :=
  if sign = ['-'] then -(value : Int) else value

/-- The integers that can be held: words of 128 bits, with or without a sign. -/
def holdsInteger (value : Int) : Bool := -(2 ^ 127) ≤ value && value < 2 ^ 128

/-- A whole number, held if its characters are digits of the base and it is not too large. -/
def whole (base : Nat) (sign chars : List Char) : Value :=
  .integer (((naturalIn? base chars).map (withSign sign)).filter holdsInteger)

/-- A whole number in a base that its first two characters told. Without a digit it is never
held. -/
def based? (base : Nat) (chars : List Char) : Option Value :=
  if chars.all fun c => c = '_' || (hexValue? c).any (· < base) then
    (joined? isHexDigit false chars).map (whole base [])
  else none

/-- Half a step above the greatest finite number of 64 bits: what reaches it is infinite. -/
def floatLimit : Nat := 2 ^ 1024 - 2 ^ 970

/-- `digits * 10 ^ exponent` is a finite number of 64 bits. -/
def isFinite (digits : Nat) (exponent : Int) : Bool :=
  let size := (toString digits).length + exponent
  if digits = 0 then true
  else if size ≤ 308 then true
  else if 310 ≤ size then false
  else if 0 ≤ exponent then digits * 10 ^ exponent.toNat < floatLimit
  else digits < floatLimit * 10 ^ (-exponent).toNat

/-- The character starts an exponent. -/
def startsExponent (c : Char) : Bool := c = 'e' || c = 'E'

/-- A character of a run of digits. -/
def isRunChar (c : Char) : Bool := c.isDigit || c = '_'

/-- The character ends a run of digits. -/
def endsRun (c : Char) : Bool := !isRunChar c

/-- The parts of a number with a fraction or an exponent: before the dot, after it, and what
follows. -/
def floatParts (chars : List Char) : List Char × Option (List Char) × List Char :=
  let before := chars.takeWhile isRunChar
  match chars.dropWhile isRunChar with
  | '.' :: rest => (before, some (rest.takeWhile isRunChar), rest.dropWhile isRunChar)
  | rest => (before, none, rest)

/-- The run holds a digit, and no zero before another one. -/
def isMantissa (run : List Char) : Bool :=
  match run.filter Char.isDigit with
  | [] => false
  | [_] => true
  | _ => run.head? ≠ some '0'

/-- The run is an exponent with its letter, or nothing. -/
def isExponent : List Char → Bool
  | [] => true
  | letter :: rest =>
    let run := (signed rest).2
    startsExponent letter && run.all isRunChar && run.any Char.isDigit

/-- The characters have the shape of a number with a fraction or an exponent. -/
def hasFloatShape (chars : List Char) : Bool :=
  let (before, fraction, rest) := floatParts chars
  isMantissa before && fraction.all (·.any Char.isDigit) && isExponent rest

/-- The value of an exponent with its letter, or of nothing. -/
def exponentValue : List Char → Int
  | [] => 0
  | _ :: rest =>
    let (sign, digits) := signed rest
    withSign sign (decimalValue digits)

/-- A number with a fraction or an exponent, without underscores. -/
def float (chars : List Char) : Value :=
  let (before, fraction, rest) := floatParts chars
  let places := fraction.getD []
  .float (isFinite (decimalValue (before ++ places)) (exponentValue rest - places.length))

/-- The characters without underscores; the first may follow a sign. -/
def unbroken? (isDigit : Char → Bool) (sign chars : List Char) : Option (List Char) :=
  joined? isDigit (!sign.isEmpty) chars

/-- A number in base ten. -/
def decimal? (sign chars : List Char) : Option Value :=
  let rest := chars.dropWhile Char.isDigit
  if rest.contains ' ' then none
  else if rest.any fun c => c = '.' || startsExponent c then
    if hasFloatShape chars then (unbroken? Char.isDigit sign chars).map float else none
  else if (rest.isEmpty || rest.head? = some '_') && (chars = ['0'] || chars.head? ≠ some '0') then
    (unbroken? isHexDigit sign chars).map (whole 10 sign)
  else none

/-- The number that characters write. -/
def number? (chars : List Char) : Option Value :=
  let (sign, chars) := signed chars
  if chars = ['i', 'n', 'f'] || chars = ['n', 'a', 'n'] then some (.float true)
  else match sign, chars with
    | [], '0' :: 'x' :: rest => based? 16 rest
    | [], '0' :: 'o' :: rest => based? 8 rest
    | [], '0' :: 'b' :: rest => based? 2 rest
    | _, [] => none
    | _, _ => decimal? sign chars

end LiveReload.Toml
