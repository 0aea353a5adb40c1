/-
**Reading the words of a command line.**

Words are read one by one. The value of an option and the value of an operand are kept back until
the next word that needs it, and only then looked at, so that of two errors the one in the way of
reading on is told.

* `Scan.step`: one word;
* `Scan.finish`: the end of the words.
-/
import LiveReload.Cli.Shape

namespace LiveReload

/-- A value that is kept back. -/
structure Held where
  name : String
  check : Check
  repeats : Bool
  value : Option String
deriving DecidableEq, Repr

/-- The words read so far. -/
structure Scan where
  shape : Shape
  /-- The values by the names of their options and operands. -/
  given : List (String × String)
  held : Option Held
  /-- The next word is the value of the option that is held. -/
  wantsValue : Bool
  /-- How many operands came. -/
  place : Nat
  /-- No word is an option any more. -/
  plain : Bool
deriving DecidableEq, Repr

/-- What a word is about. -/
inductive Reading
  /-- The word was read. -/
  | read (scan : Scan)
  /-- The word is a command, which reads the words after it. -/
  | command (name : String)
deriving DecidableEq, Repr

namespace Scan

/-- No words. -/
def start (shape : Shape) : Scan :=
  { shape, given := [], held := none, wantsValue := false, place := 0, plain := false }

/-- The name was given. -/
def has (scan : Scan) (name : String) : Bool := scan.given.any fun entry => entry.1 = name

/-- Takes a value. -/
def accept (scan : Scan) (name : String) (check : Check) (repeats : Bool) (value : String) :
    Except UsageError Scan :=
  if !repeats && scan.has name then .error .repeated
  else match check.flaw? value with
    | some error => .error error
    | none => .ok { scan with given := scan.given ++ [(name, value)] }

/-- Takes the value that is held back. -/
def settle (scan : Scan) : Except UsageError Scan :=
  match scan.held with
  | none => .ok scan
  | some held =>
    match held.value with
    | none => .error .missingValue
    | some value =>
      { scan with held := none, wantsValue := false }.accept held.name held.check held.repeats value

/-- An option without a value of its own. -/
def takeSwitch (scan : Scan) (name : String) (kind : OptionKind) : Except UsageError Scan := do
  let scan ← scan.settle
  match kind with
  | .help => .error .help
  | .version => .error .version
  | .flag =>
    let scan ← scan.accept name .anything false ""
    .ok { scan with wantsValue := false }
  | .value check repeats =>
    .ok { scan with held := some ⟨name, check, repeats, none⟩, wantsValue := true }

/-- An option with a value after an equals sign. -/
def takeJoined (scan : Scan) (name value : String) (kind : OptionKind) : Except UsageError Scan :=
  match kind with
  | .value check repeats => do (← scan.settle).accept name check repeats value
  | _ => .error .unneededValue

/-- The next operand is one of those at the end, which may look like options. -/
def takesAnything (scan : Scan) : Bool :=
  scan.place = scan.shape.operands.length && scan.shape.rest.isSome

/-- An operand. -/
def takeOperand (scan : Scan) (word : String) : Except UsageError Scan :=
  match scan.shape.operands[scan.place]? with
  | some (name, check) => do
    let scan ← scan.settle
    .ok { scan with held := some ⟨name, check, false, some word⟩, place := scan.place + 1 }
  | none =>
    match scan.shape.rest with
    | some name => do
      let scan ← scan.settle
      (scan.accept name .anything true word).map fun scan => { scan with plain := true }
    | none =>
      if scan.shape.commands.isEmpty || (scan.plain && scan.shape.commands.contains word) then
        .error .unknownWord
      else .error .unknownCommand

/-- A word that is no option: a value that an option waits for, or an operand. -/
def takeWord (scan : Scan) (word : String) : Except UsageError Scan :=
  match scan.held with
  | some held =>
    if scan.wantsValue then
      .ok { scan with held := some { held with value := some word }, wantsValue := false }
    else scan.takeOperand word
  | none => scan.takeOperand word

/-- A long option cut at its first equals sign. -/
def cut (word : List Char) : String × Option String :=
  let name := String.ofList (word.takeWhile (· ≠ '='))
  match word.dropWhile (· ≠ '=') with
  | [] => (name, none)
  | _ :: value => (name, some (String.ofList value))

/-- A word that starts with two dashes. -/
def takeLong (scan : Scan) (word : String) (body : List Char) : Except UsageError Scan :=
  let (name, value) := cut body
  match scan.shape.options.lookup name, value with
  | some kind, none => scan.takeSwitch name kind
  | some kind, some value => scan.takeJoined name value kind
  | none, _ => if scan.takesAnything then scan.takeWord word else .error .unknownWord

/-- The letters after one dash; of the options with letters, all end the reading. -/
def takeLetters (scan : Scan) : List Char → Except UsageError Scan
  | [] => .ok scan
  | letter :: rest =>
    match scan.shape.letters.lookup letter with
    | none => .error .unknownWord
    | some kind => do (← scan.takeSwitch (String.singleton letter) kind).takeLetters rest

/-- A word that starts with one dash. -/
def takeShort (scan : Scan) (word : String) (letters : List Char) : Except UsageError Scan :=
  let known := letters.all fun letter => (scan.shape.letters.lookup letter).isSome
  if scan.takesAnything && !known then scan.takeWord word else scan.takeLetters letters

/-- One word. -/
def step (scan : Scan) (word : String) : Except UsageError Reading :=
  if scan.plain then (scan.takeOperand word).map .read
  else if !scan.wantsValue && scan.shape.commands.contains word then .ok (.command word)
  else match word.toList with
    | ['-', '-'] => .ok (.read { scan with plain := true })
    | '-' :: '-' :: body => (scan.takeLong word body).map .read
    | '-' :: letter :: letters => (scan.takeShort word (letter :: letters)).map .read
    | _ => (scan.takeWord word).map .read

/-- The words are over; all operands of a fixed place are needed. -/
def finish (scan : Scan) : Except UsageError Scan := do
  let scan ← scan.settle
  if scan.place < scan.shape.operands.length then .error .missingOperand else .ok scan

/-- Reads words up to a command among them. -/
def readWords (scan : Scan) : List String → Except UsageError (Scan × Option (String × List String))
  | [] => .ok (scan, none)
  | word :: rest =>
    match scan.step word with
    | .error error => .error error
    | .ok (.command name) => .ok (scan, some (name, rest))
    | .ok (.read scan) => scan.readWords rest

/-- The value of a name that is given once. -/
def value? (scan : Scan) (name : String) : Option String := scan.given.lookup name

/-- All values of a name. -/
def values (scan : Scan) (name : String) : List String :=
  (scan.given.filter fun entry => entry.1 = name).map Prod.snd

end Scan

end LiveReload
