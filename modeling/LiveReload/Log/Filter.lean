/-
**Which records are shown.**

A filter is a list of directives, each with the least severity that is shown for the parts of the
program whose names start in some way. The directive with the longest fitting name decides.

* `LogFilter.ofText`: the filter that a text writes;
* `LogFilter.shows`: the record is shown.
-/
import LiveReload.Log
import LiveReload.Pattern.Reader

namespace LiveReload

/-- How severe records of some parts of the program must be to be shown. -/
structure Directive where
  /-- What the names of those parts start with; without it, all parts. -/
  source : Option String
  /-- The greatest rank that is shown. -/
  rank : Nat
deriving DecidableEq, Repr

/-- Directives, those of shorter names first, and what the texts of shown records hold. -/
structure LogFilter where
  directives : List Directive
  pattern : Option Pattern
deriving DecidableEq, Repr

namespace LogFilter

/-- The ranks that names stand for. -/
def ranks : List (String × Nat) :=
  ("off", 0) :: [Severity.error, .warn, .info, .debug, .trace].map fun severity =>
    (severity.name.map Char.toLower, severity.rank)

/-- The rank of a name in any case of letters. -/
def rankOf? (name : String) : Option Nat := ranks.lookup (name.map Char.toLower)

/-- The greatest rank. -/
def greatest : Nat := Severity.trace.rank

/-- The directive that a text writes. -/
def directiveOf? (text : String) : Option Directive :=
  match text.splitOn "=" with
  | [word] =>
    match rankOf? word with
    | some rank => some ⟨none, rank⟩
    | none => some ⟨some word, greatest⟩
  | [source, level] =>
    let level := Blank.trim level
    if level.isEmpty then some ⟨some source, greatest⟩
    else (rankOf? level).map fun rank => ⟨some source, rank⟩
  | _ => none

/-- Directives with one more, in place of the one with the same name if there is one. -/
def insert (directives : List Directive) (directive : Directive) : List Directive :=
  if directives.any fun other => other.source = directive.source then
    directives.map fun other => if other.source = directive.source then directive else other
  else directives ++ [directive]

/-- The length of the name of a directive. -/
def width (directive : Directive) : Nat := (directive.source.map String.utf8ByteSize).getD 0

/-- The directives that a text writes, the shorter names first; none at all show errors. -/
def directivesOf (text : String) : List Directive :=
  let words := ((text.splitOn ",").map Blank.trim).filter fun word => !word.isEmpty
  let all := (words.filterMap directiveOf?).foldl insert []
  if all.isEmpty then [⟨none, Severity.error.rank⟩]
  else all.mergeSort fun a b => decide (width a ≤ width b)

/-- The filter that a text writes: directives, and after a slash a pattern that records must have.
What is no pattern is left out. -/
def ofText (text : String) : LogFilter :=
  match text.splitOn "/" with
  | [directives] => ⟨directivesOf directives, none⟩
  | [directives, pattern] => ⟨directivesOf directives, Pattern.ofText? pattern⟩
  | _ => ⟨directivesOf "", none⟩

/-- The filter when none is written. -/
def standard : LogFilter := ofText "info"

/-- The directive is about a part of the program. -/
def concerns (source : String) (directive : Directive) : Bool :=
  directive.source.all fun start => start.toList.isPrefixOf source.toList

/-- The record is shown. -/
def shows (filter : LogFilter) (record : Record) : Bool :=
  match filter.directives.reverse.find? (concerns record.source) with
  | none => false
  | some directive =>
    record.severity.rank ≤ directive.rank &&
      filter.pattern.all fun pattern => pattern.occursIn record.text

end LogFilter

end LiveReload
