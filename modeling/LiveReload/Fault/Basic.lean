/-
**What goes wrong below the program.**

* `Crash`: a failure its maker does not survive, with the words it leaves behind;
* `Fault`: a failed system call, reading or writing, reported to the caller.
-/
import LiveReload.Fault.SystemText

namespace LiveReload

/-- A failure that ends whoever meets it, with its message. -/
structure Crash where
  message : String
deriving DecidableEq, Repr

/-- A sum does not fit its word. -/
def Crash.overflow : Crash := ⟨"attempt to add with overflow"⟩

/-- What kind of thing a fault is when it carries no error number. -/
inductive FaultKind
  | notFound
  | permissionDenied
  | interrupted
  | brokenPipe
  | writeZero
  | other
deriving DecidableEq, Repr

/-- The description of a kind. -/
def FaultKind.text : FaultKind → String
  | notFound => "entity not found"
  | permissionDenied => "permission denied"
  | interrupted => "operation interrupted"
  | brokenPipe => "broken pipe"
  | writeZero => "write zero"
  | other => "other error"

/-- A failed request to the system: an error number, a kind alone, or words of its own. -/
inductive Fault
  | system (number : Int)
  | plain (kind : FaultKind)
  | worded (kind : FaultKind) (message : String)
deriving DecidableEq, Repr

namespace Fault

/-- No such entry. -/
def missing : Fault := .system 2

/-- Not allowed. -/
def denied : Fault := .system 13

/-- The entry exists already. -/
def alreadyExists : Fault := .system 17

/-- An entry on the way is no directory. -/
def notDirectory : Fault := .system 20

/-- The entry is a directory. -/
def isDirectory : Fault := .system 21

/-- A name is too long. -/
def nameTooLong : Fault := .system 36

/-- Too many links were followed. -/
def tooManyLinks : Fault := .system 40

/-- A fault in words. -/
def message : Fault → String
  | system number => s!"{systemText number} (os error {number})"
  | plain kind => kind.text
  | worded _ message => message

/-- The request was interrupted and may be made again. -/
def isInterruption : Fault → Bool
  | system number => number = 4
  | plain kind => kind = .interrupted
  | worded kind _ => kind = .interrupted

/-- The fault says that an entry does not exist. -/
def isMissing : Fault → Bool
  | system number => number = 2
  | plain kind => kind = .notFound
  | worded kind _ => kind = .notFound

end Fault

end LiveReload
