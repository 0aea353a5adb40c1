/-
**Documents of settings: dates and times.**

A moment is a date, a time of day, or both, then with or without an offset. It is kept in one
spelling: capital letters, nine places of a second at most and no zeros at their end.

* `moment?`: the moment that characters write;
* `isDate`: the characters are a date, which a time may follow after one blank.
-/
import LiveReload.Toml.Text

namespace LiveReload.Toml

/-- The number that decimal digits write. -/
def decimalValue (digits : List Char) : Nat :=
  digitsValue 10 (digits.map fun c => c.toNat - 48)

/-- The number of days of a month. -/
def daysIn (year month : Nat) : Nat :=
  if month = 2 then
    if (year % 4 = 0 && year % 100 ≠ 0) || year % 400 = 0 then 29 else 28
  else if month = 4 || month = 6 || month = 9 || month = 11 then 30
  else 31

/-- A number of exactly `width` digits and what follows it. -/
def fixed? (width : Nat) (chars : List Char) : Option (Nat × List Char) :=
  let digits := chars.take width
  if digits.length = width && digits.all Char.isDigit then
    some (decimalValue digits, chars.drop width)
  else none

/-- What follows a character, if it is there. -/
def past? (c : Char) (chars : List Char) : Option (List Char) :=
  if chars.head? = some c then some chars.tail else none

/-- A date and what follows it. -/
def date? (chars : List Char) : Scanned := do
  let (year, rest) ← fixed? 4 chars
  let (month, rest) ← fixed? 2 (← past? '-' rest)
  let (day, rest) ← fixed? 2 (← past? '-' rest)
  if 1 ≤ month && month ≤ 12 && 1 ≤ day && day ≤ daysIn year month then
    some (chars.take 10, rest)
  else none

/-- Hours and minutes, and what follows them. -/
def clock? (chars : List Char) : Scanned := do
  let (hour, rest) ← fixed? 2 chars
  let (minute, rest) ← fixed? 2 (← past? ':' rest)
  if hour ≤ 23 && minute ≤ 59 then some (chars.take 5, rest) else none

/-- The places of a second that are kept. -/
def secondPlaces : Nat := 9

/-- The places of a second, of which one is always there. -/
def placesText (digits : List Char) : List Char :=
  let kept := ((digits.take secondPlaces).reverse.dropWhile (· = '0')).reverse
  if kept.isEmpty then ['0'] else kept

/-- The places of a second and what follows them, if there are some. -/
def places? (chars : List Char) : Scanned :=
  match past? '.' chars with
  | none => some ([], chars)
  | some rest =>
    let digits := rest.takeWhile Char.isDigit
    if digits.isEmpty then none
    else some ('.' :: placesText digits, rest.dropWhile Char.isDigit)

/-- The seconds of a time and what follows them, if there are some. -/
def seconds? (chars : List Char) : Scanned :=
  match past? ':' chars with
  | none => some ([], chars)
  | some digits => do
    let (second, rest) ← fixed? 2 digits
    let (places, rest) ← places? rest
    if second ≤ 60 then some (':' :: digits.take 2 ++ places, rest) else none

/-- A time of day and what follows it. -/
def time? (chars : List Char) : Scanned := do
  let (clock, rest) ← clock? chars
  let (seconds, rest) ← seconds? rest
  some (clock ++ seconds, rest)

/-- An offset, or nothing; no offset is negative and zero. -/
def offset? : List Char → Option (List Char)
  | [] => some []
  | ['Z'] => some ['Z']
  | ['z'] => some ['Z']
  | sign :: rest =>
    if sign = '+' || sign = '-' then
      match clock? rest with
      | some (clock, []) =>
        some ((if clock = ['0', '0', ':', '0', '0'] then '+' else sign) :: clock)
      | _ => none
    else none

/-- A character that may stand between a date and a time. -/
def isTimeMark (c : Char) : Bool := c = 'T' || c = 't' || c = ' '

/-- The moment that characters write. -/
def moment? (chars : List Char) : Option (List Char) :=
  match date? chars with
  | some (date, []) => some date
  | some (date, mark :: rest) => do
    let (time, rest) ← time? rest
    let offset ← offset? rest
    if isTimeMark mark then some (date ++ 'T' :: time ++ offset) else none
  | none =>
    match time? chars with
    | some (time, []) => some time
    | _ => none

/-- The characters are a date, so that a time may follow after one blank. -/
def isDate (text : String) : Bool :=
  match date? text.toList with
  | some (_, []) => true
  | _ => false

end LiveReload.Toml
