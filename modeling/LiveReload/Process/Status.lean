/-
**How processes end.**
-/
import LiveReload.Time

namespace LiveReload

/-- How a process ended. -/
inductive Status
  | exited (code : Nat)
  | killed (signal : Nat)
deriving DecidableEq, Repr

namespace Status

/-- The process ended well. -/
def isSuccess (status : Status) : Bool := status = .exited 0

/-- The names of signals, by number. -/
def signalNames : List (Nat × String) :=
  [(1, "SIGHUP"), (2, "SIGINT"), (3, "SIGQUIT"), (4, "SIGILL"), (5, "SIGTRAP"), (6, "SIGABRT"),
    (7, "SIGBUS"), (8, "SIGFPE"), (9, "SIGKILL"), (10, "SIGUSR1"), (11, "SIGSEGV"),
    (12, "SIGUSR2"), (13, "SIGPIPE"), (14, "SIGALRM"), (15, "SIGTERM"), (16, "SIGSTKFLT"),
    (17, "SIGCHLD"), (18, "SIGCONT"), (19, "SIGSTOP"), (20, "SIGTSTP"), (21, "SIGTTIN"),
    (22, "SIGTTOU"), (23, "SIGURG"), (24, "SIGXCPU"), (25, "SIGXFSZ"), (26, "SIGVTALRM"),
    (27, "SIGPROF"), (28, "SIGWINCH"), (29, "SIGIO"), (30, "SIGPWR"), (31, "SIGSYS")]

/-- The greatest number of a signal. -/
def lastSignal : Nat := 64

/-- The signals that a process passes over unless it asks for them. -/
def harmlessSignals : List Nat := [17, 18, 23, 28]

/-- A process that sends itself the signal ends by it. -/
def isDeadly (signal : Nat) : Bool :=
  0 < signal && signal ≤ lastSignal && !harmlessSignals.contains signal

/-- How a process ended, in words. -/
def text : Status → String
  | exited code => s!"exit status: {code}"
  | killed signal =>
    match signalNames.lookup signal with
    | some name => s!"signal: {signal} ({name})"
    | none => s!"signal: {signal}"

end Status

/-- What a process leaves behind. -/
structure Finished where
  status : Status
  stdout : List UInt8
  stderr : List UInt8
  /-- How long it ran. -/
  elapsed : Span
deriving DecidableEq, Repr

end LiveReload
