/-
**Log records.**

A record has a severity, the part of the program that speaks, and a text.
-/

namespace LiveReload

/-- How severe a record is, from the most to the least. -/
inductive Severity
  | error
  | warn
  | info
  | debug
  | trace
deriving DecidableEq, Repr

/-- The more severe, the lower. -/
def Severity.rank : Severity → Nat
  | error => 1
  | warn => 2
  | info => 3
  | debug => 4
  | trace => 5

/-- The name of a severity. -/
def Severity.name : Severity → String
  | error => "ERROR"
  | warn => "WARN"
  | info => "INFO"
  | debug => "DEBUG"
  | trace => "TRACE"

/-- One line of the log. -/
structure Record where
  severity : Severity
  source : String
  text : String
deriving DecidableEq, Repr

/-- A record as it is shown: its severity and its text. -/
def Record.show (record : Record) : String :=
  record.severity.name ++ " " ++ record.text

end LiveReload
