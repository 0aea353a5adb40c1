/-
**Shapes of command lines.**

The words of a command are options, which are named, and operands, which are told by their place.
A shape says which there are.

* `Check.flaw?`: what is wrong with a value;
* `UsageError`: why words are no command.
-/
import LiveReload.Build.Platform
import LiveReload.Power

namespace LiveReload

/-- Why words are no command. -/
inductive UsageError
  /-- Help was asked for. -/
  | help
  /-- The version was asked for. -/
  | version
  /-- There are no words at all. -/
  | nothing
  | missingCommand
  | unknownCommand
  | unknownWord
  /-- An option without its value, or an empty path. -/
  | missingValue
  /-- A value of the wrong kind. -/
  | wrongValue
  /-- A value for an option that has none. -/
  | unneededValue
  /-- An option that may not be repeated. -/
  | repeated
  | missingOperand
deriving DecidableEq, Repr

/-- The status of a program that was given such words. -/
def UsageError.status : UsageError → Nat
  | help => 0
  | version => 0
  | _ => 2

/-- What a value must be. -/
inductive Check
  | anything
  /-- A path, which is not empty. -/
  | path
  /-- A number of 64 bits. -/
  | word
  | platform
deriving DecidableEq, Repr

/-- The number that a word writes: digits, after a plus sign or none. -/
def wordOf? (text : String) : Option Nat :=
  let digits := match text.toList with
    | '+' :: rest => rest
    | digits => digits
  if digits.isEmpty || !digits.all Char.isDigit then none
  else
    let value := digits.foldl (fun value c => value * 10 + (c.toNat - 48)) 0
    if value < 2 ^ 64 then some value else none

/-- What is wrong with a value. -/
def Check.flaw? : Check → String → Option UsageError
  | anything, _ => none
  | path, text => if text.isEmpty then some .missingValue else none
  | word, text => if (wordOf? text).isSome then none else some .wrongValue
  | platform, text =>
    match Platform.ofName text with
    | .ok _ => none
    | .error _ => some .wrongValue

/-- What an option is for. -/
inductive OptionKind
  | flag
  | value (check : Check) (repeats : Bool)
  | help
  | version
deriving DecidableEq, Repr

/-- The options and operands of a command. -/
structure Shape where
  /-- Options by name. -/
  options : List (String × OptionKind)
  /-- One-letter names of options. -/
  letters : List (Char × OptionKind)
  /-- Operands in their order. -/
  operands : List (String × Check)
  /-- The name of all further operands; from the first of them on nothing is an option. -/
  rest : Option String
  /-- Commands that may follow. -/
  commands : List String
deriving DecidableEq, Repr

end LiveReload
