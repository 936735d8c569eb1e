/-!
# Signals

A program that is stopped from outside ends by a signal. Signals have numbers, and most numbers have
a name; the signals between the last of the ordinary ones and the real-time ones have none.
-/

namespace TransformPreset

/-- The names of the ordinary signals, from number 1 on. -/
def ordinarySignals : List String :=
  ["SIGHUP", "SIGINT", "SIGQUIT", "SIGILL", "SIGTRAP", "SIGABRT", "SIGBUS", "SIGFPE", "SIGKILL",
    "SIGUSR1", "SIGSEGV", "SIGUSR2", "SIGPIPE", "SIGALRM", "SIGTERM", "SIGSTKFLT", "SIGCHLD",
    "SIGCONT", "SIGSTOP", "SIGTSTP", "SIGTTIN", "SIGTTOU", "SIGURG", "SIGXCPU", "SIGXFSZ",
    "SIGVTALRM", "SIGPROF", "SIGWINCH", "SIGIO", "SIGPWR", "SIGSYS"]

/-- The name of a signal, if its number has one. -/
def signalName? (number : Nat) : Option String :=
  match number with
  | 0 => none
  | 34 => some "SIGRTMIN"
  | 64 => some "SIGRTMAX"
  | index + 1 => ordinarySignals[index]?

end TransformPreset
