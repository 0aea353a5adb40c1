/-
**Notifications of a file system.**

A notification is an event at some paths, or an error of the service that reports events.

* `EventKind.isRelevant`, `Event.isRelevant`: the event may mean that a source changed;
* `BackendError.message`: an error in words.
-/
import LiveReload.Fault.Basic
import LiveReload.Text.Quoted
import LiveReload.Watch.Settings

namespace LiveReload

/-- What happened. -/
inductive EventKind
  | any
  | access
  | create
  | createDirectory
  | modify
  | remove
  | other
deriving DecidableEq, Repr

/-- The kind may change what a file holds. -/
def EventKind.counts : EventKind → Bool
  | access => false
  | other => false
  | _ => true

/-- An event at some paths may mean that a source changed: its kind counts, and some path of it is
not left out; an event without paths may be anything. -/
def EventKind.isRelevant (kind : EventKind) (exclusions : Exclusions) (paths : List RawPath) :
    Bool :=
  kind.counts && (paths.isEmpty || paths.any fun path => !exclusions.leaveOut path)

/-- A kind in diagnostics. -/
def EventKind.debug : EventKind → String
  | any => "Any"
  | access => "Access(Any)"
  | create => "Create(File)"
  | createDirectory => "Create(Folder)"
  | modify => "Modify(Data(Any))"
  | remove => "Remove(File)"
  | other => "Other"

/-- Paths in diagnostics. -/
def Path.debugList (paths : List Path) : String :=
  Quoted.list (paths.map fun path => Quoted.text path.text)

/-- Something that happened at some paths. -/
structure Event where
  kind : EventKind
  paths : List Path
deriving DecidableEq, Repr

/-- The event may mean that a source changed. -/
def Event.isRelevant (event : Event) (config : WatchSettings) : Bool :=
  event.kind.isRelevant config.exclusions (event.paths.map .ofPath)

/-- What went wrong with the service that reports events. -/
inductive BackendErrorKind
  | generic (message : String)
  | fault (cause : Fault)
  | pathNotFound
  | watchNotFound
  | tooManyFiles
deriving DecidableEq, Repr

/-- An error of the service that reports events, at some paths. -/
structure BackendError where
  kind : BackendErrorKind
  paths : List Path
deriving DecidableEq, Repr

/-- A kind of error in words. -/
def BackendErrorKind.message : BackendErrorKind → String
  | generic message => message
  | fault cause => cause.message
  | pathNotFound => "No path was found."
  | watchNotFound => "No watch was found."
  | tooManyFiles => "OS file watch limit reached."

/-- An error in words, with the paths if there are any. -/
def BackendError.message (error : BackendError) : String :=
  if error.paths.isEmpty then error.kind.message
  else error.kind.message ++ " about " ++ Path.debugList error.paths

/-- What the service reports. -/
inductive Notification
  | event (happened : Event)
  | failure (error : BackendError)
deriving DecidableEq, Repr

/-- The notification is a relevant event. -/
def Notification.isRelevant (config : WatchSettings) : Notification → Bool
  | event happened => happened.isRelevant config
  | failure _ => false

/-- A notification that arrives at an instant. -/
structure Delivery where
  instant : Instant
  notification : Notification
deriving DecidableEq, Repr

/-- Notifications to be received, in the order of their arrival, and the instant at which their
sender goes away, if it does. -/
structure Channel where
  deliveries : List Delivery
  closing : Option Instant
deriving DecidableEq, Repr

end LiveReload
