/-! # How a process ended

A process ends with a status of its own or by a signal. -/

namespace BenchKernel

inductive ExitStatus
  | exited (code : Nat)
  | signaled (signal : Nat)
  deriving DecidableEq, Repr

namespace ExitStatus

def signalNames : List (Nat × String) :=
  [(1, "SIGHUP"), (2, "SIGINT"), (3, "SIGQUIT"), (4, "SIGILL"), (5, "SIGTRAP"), (6, "SIGABRT"), (7, "SIGBUS"),
    (8, "SIGFPE"), (9, "SIGKILL"), (10, "SIGUSR1"), (11, "SIGSEGV"), (12, "SIGUSR2"), (13, "SIGPIPE"),
    (14, "SIGALRM"), (15, "SIGTERM"), (16, "SIGSTKFLT"), (17, "SIGCHLD"), (18, "SIGCONT"), (19, "SIGSTOP"),
    (20, "SIGTSTP"), (21, "SIGTTIN"), (22, "SIGTTOU"), (23, "SIGURG"), (24, "SIGXCPU"), (25, "SIGXFSZ"),
    (26, "SIGVTALRM"), (27, "SIGPROF"), (28, "SIGWINCH"), (29, "SIGIO"), (30, "SIGPWR"), (31, "SIGSYS")]

/-- The signals that do nothing to a process which does not handle them. -/
def harmlessSignals : List Nat := [0, 17, 18, 23, 28]

/-- What a shell says of a child that a signal has ended. Of some it says nothing. -/
def signalDescriptions : List (Nat × String) :=
  [(1, "Hangup"), (3, "Quit"), (4, "Illegal instruction"), (5, "Trace/breakpoint trap"), (6, "Aborted"),
    (7, "Bus error"), (8, "Floating point exception"), (9, "Killed"), (10, "User defined signal 1"),
    (11, "Segmentation fault"), (12, "User defined signal 2"), (14, "Alarm clock"), (15, "Terminated"),
    (16, "Stack fault"), (24, "CPU time limit exceeded"), (25, "File size limit exceeded"),
    (26, "Virtual timer expired"), (27, "Profiling timer expired"), (29, "I/O possible"), (30, "Power failure"),
    (31, "Bad system call")]

def success (s : ExitStatus) : Bool := s == .exited 0

/-- The number by which a shell knows how a process ended. -/
def code : ExitStatus → Nat
  | exited code => code
  | signaled signal => 128 + signal

def message : ExitStatus → String
  | exited code => s!"exit status: {code}"
  | signaled signal => s!"signal: {signal}" ++ ((signalNames.lookup signal).map fun n => s!" ({n})").getD ""

end ExitStatus

end BenchKernel
