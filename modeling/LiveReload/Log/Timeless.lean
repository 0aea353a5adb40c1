/-
**Texts without times.**

Two runs that do the same tell different times. A text is compared without them: the first time
behind the word `in` and the first behind the word `after` are left out, and a sign stands for them.

* `Timeless.text`: a text without its times;
* `Timeless.blankBehind`: the step for one word.
-/
namespace LiveReload.Timeless

/-- What stands for a time. -/
def sign : List Char := ['#', 's']

/-- The rest of a text that starts with seconds with two places. -/
def dropTime? (chars : List Char) : Option (List Char) :=
  match chars.takeWhile Char.isDigit, chars.dropWhile Char.isDigit with
  | _ :: _, '.' :: tenth :: hundredth :: 's' :: rest =>
    if tenth.isDigit && hundredth.isDigit then some rest else none
  | _, _ => none

/-- Leaves out the first time behind a word. -/
def blankBehind (word : List Char) : List Char → List Char
  | [] => []
  | c :: rest =>
    let behind := (c :: rest).drop word.length
    match if word.isPrefixOf (c :: rest) then dropTime? behind else none with
    | some after => word ++ sign ++ after
    | none => c :: blankBehind word rest

/-- A text without its times. -/
def text (text : String) : String :=
  .ofList (blankBehind " after ".toList (blankBehind " in ".toList text.toList))

end LiveReload.Timeless
