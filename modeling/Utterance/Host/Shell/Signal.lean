import Utterance.Host.Octets

/-!
# Signals

The names of signals by their numbers, and what is said of a program that one of them ended.
-/

namespace Utterance.Host.Signal
set_option autoImplicit false

/-- The names of the signals, from zero on, which stands for the end of a shell. -/
def names : List String :=
  ["EXIT", "HUP", "INT", "QUIT", "ILL", "TRAP", "ABRT", "BUS", "FPE", "KILL", "USR1", "SEGV", "USR2", "PIPE", "ALRM",
   "TERM", "STKFLT", "CHLD", "CONT", "STOP", "TSTP", "TTIN", "TTOU", "URG", "XCPU", "XFSZ", "VTALRM", "PROF", "WINCH",
   "IO", "PWR", "SYS"]

/-- What is said of a program that a signal ended, from the first signal on. -/
def descriptions : List String :=
  ["Hangup", "Interrupt", "Quit", "Illegal instruction", "Trace/breakpoint trap", "Aborted", "Bus error",
   "Floating point exception", "Killed", "User defined signal 1", "Segmentation fault", "User defined signal 2",
   "Broken pipe", "Alarm clock", "Terminated", "Stack fault", "Child exited", "Continued", "Stopped (signal)",
   "Stopped", "Stopped (tty input)", "Stopped (tty output)", "Urgent I/O condition", "CPU time limit exceeded",
   "File size limit exceeded", "Virtual timer expired", "Profiling timer expired", "Window changed", "I/O possible",
   "Power failure", "Bad system call"]

/-- The greatest number of a signal. -/
def greatest : Nat := 64

/-- The name of a signal. The last ones are counted from the first or the last of their kind; two have no name. -/
def name (n : Nat) : String :=
  if n < 32 then names.getD n ""
  else if n < 34 then toString n
  else if n = 34 then "RTMIN"
  else if n < 50 then "RTMIN+" ++ toString (n - 34)
  else if n < 64 then "RTMAX-" ++ toString (64 - n)
  else "RTMAX"

/-- The number of a signal that is given by number or by name. -/
def number? (word : Octets) : Option Nat :=
  match natural? word with
  | some n => if n ≤ greatest then some n else none
  | none => names.findIdx? (· = String.ofList (word.map Char.toUpper))

/-- What is said of a program that a signal ended; nothing if it was interrupted or nobody read its output. -/
def notice? (n : Nat) : Option String :=
  if n = 2 || n = 13 then none else if n = 0 then none else descriptions[n - 1]?

/-- Whether a signal does nothing unless something is set up for it. -/
def isHarmless (n : Nat) : Bool :=
  n = 0 || n = 17 || n = 18 || n = 23 || n = 28

/-- Whether a signal makes a program wait for another one. -/
def isHalting (n : Nat) : Bool :=
  n = 19 || n = 20 || n = 21 || n = 22

end Utterance.Host.Signal
